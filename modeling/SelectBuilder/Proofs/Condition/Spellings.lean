import SelectBuilder.Proofs.Column.Null
import SelectBuilder.Proofs.Condition.Exchange

/-! The two spellings of null on a nullable column. An operator that reads nothing but literals
makes the same of both. A range test looks at its bounds before the column does: null is no bound
there, and the text of its literal is one. -/
namespace SelectBuilder

namespace Operator

/-- The bound as it was, or the text of the literal of null in place of null. -/
def BoundRespelled (bound other : Option Value) : Prop :=
  other = bound ∨ bound = some .null ∧ other = some (.string Value.nullLiteral)

/-- Nulls of an operand in their other spelling: the operand itself, the items of a list, or the
bounds of a range. -/
inductive Respells (operator : Operator) : Operand → Operand → Prop
  | value {v w : Value} (h : v.Respelled w) : Respells operator (.value v) (.value w)
  | items {vs ws : List Value} (hitems : operator.takesItems = true)
      (h : List.Forall₂ Value.Respelled vs ws) :
      Respells operator (.value (.array vs)) (.value (.array ws))
  | range {low low' high high' : Option Value} (hlow : BoundRespelled low low')
      (hhigh : BoundRespelled high high') :
      Respells operator (.range low high) (.range low' high')

variable {fields : FieldSet} {field : String} {inner : ColumnType} {operator : Operator}
  {operand operand' : Operand}
  {low low' high high' : Option Value}

theorem takesAlike_of_respelled {v w : Value} (h : v.Respelled w) :
    (ColumnType.nullable inner).TakesAlike v w := by
  rcases h with rfl | ⟨rfl, rfl⟩
  · exact .inl rfl
  · exact .inr ⟨.null, rfl, rfl⟩

theorem BoundRespelled.rel {bound other : Option Value} (h : BoundRespelled bound other) :
    Option.Rel (ColumnType.nullable inner).TakesAlike bound other := by
  rcases h with rfl | ⟨rfl, rfl⟩
  · cases other with
    | none => exact .none
    | some v => exact .some (.inl rfl)
  · exact .some (takesAlike_of_respelled (.inr ⟨rfl, rfl⟩))

/-- A nullable column takes an operand and a respelling of it alike. -/
theorem Respells.eq_or_relates (inner : ColumnType) (h : operator.Respells operand operand') :
    operand' = operand ∨
    operator.Relates (ColumnType.nullable inner).TakesAlike operand operand' := by
  cases h with
  | value h =>
    rcases h with rfl | ⟨rfl, rfl⟩
    · exact .inl rfl
    · exact .inr (.value (fun _ => ⟨rfl, rfl⟩) (takesAlike_of_respelled (.inr ⟨rfl, rfl⟩)))
  | items hitems h => exact .inr (.items hitems (h.imp fun _ _ => takesAlike_of_respelled))
  | range hlow hhigh => exact .inr (.range hlow.rel hhigh.rel)

theorem render_respelled (hfield : fields.get field = .ok (.nullable inner))
    (hreads : operator.readsLiterals = true) (h : operator.Respells operand operand') :
    operator.render fields field operand' = operator.render fields field operand := by
  rcases h.eq_or_relates inner with rfl | hrelates
  · rfl
  · exact render_of_relates hfield hreads hrelates

section Bounds

theorem BoundRespelled.eq_of_isOpen {bound other : Option Value} (h : BoundRespelled bound other)
    (hopen : IsOpen other ↔ IsOpen bound) : other = bound := by
  rcases h with rfl | ⟨rfl, rfl⟩
  · rfl
  · cases isSome_present_eq_iff.mpr hopen

theorem boundRespelled_of_respelled {v w : Value} (h : v.Respelled w) :
    BoundRespelled (some v) (some w) :=
  h.imp (congrArg some) fun ⟨hv, hw⟩ => ⟨congrArg some hv, congrArg some hw⟩

theorem Respells.exists_spans (h : between.Respells operand operand')
    (hspans : operand.Spans low high) :
    ∃ low' high', operand'.Spans low' high' ∧ BoundRespelled low low' ∧ BoundRespelled high high' ∧
      (low' = low → high' = high → operand' = operand) := by
  cases hspans with
  | range =>
    cases h with
    | range hlow hhigh => exact ⟨_, _, .range _ _, hlow, hhigh, fun hl hh => by rw [hl, hh]⟩
  | array v w =>
    cases h with
    | value h =>
      rcases h with rfl | ⟨h, -⟩
      · exact ⟨_, _, .array v w, .inl rfl, .inl rfl, fun _ _ => rfl⟩
      · cases h
    | items _ h =>
      obtain ⟨v', _, hv, hrest, rfl⟩ := List.forall₂_cons_left_iff.mp h
      obtain ⟨w', _, hw, hnil, rfl⟩ := List.forall₂_cons_left_iff.mp hrest
      obtain rfl := List.forall₂_nil_left_iff.mp hnil
      refine ⟨_, _, .array v' w', boundRespelled_of_respelled hv, boundRespelled_of_respelled hw,
        fun hl hh => ?_⟩
      rw [Option.some.inj hl, Option.some.inj hh]

theorem render_between_of_not_spans (h : between.Respells operand operand')
    (hspans : ∀ low high, ¬ operand.Spans low high) :
    between.render fields field operand' = between.render fields field operand := by
  rcases h.eq_or_relates .string with rfl | hrelates
  · rfl
  · exact render_between_of_relates hrelates hspans

variable (hfield : fields.get field = .ok (.nullable inner)) (h : between.Respells operand operand')
include hfield h

/-- The column refuses a bound whether or not the other one is null. -/
theorem render_between_respelled (hspans : operand.Spans low high)
    (hrefuses : RefusesBound fields field low high) :
    between.render fields field operand' = between.render fields field operand := by
  obtain ⟨low', high', hspans', hlow, hhigh, -⟩ := h.exists_spans hspans
  exact render_between_of_refusesBound hfield hspans hspans' hlow.rel hhigh.rel hrefuses

/-- If no bound is refused, the text shows which bounds there are. -/
theorem eq_of_render_between (hspans : operand.Spans low high)
    (hrefuses : ¬ RefusesBound fields field low high)
    (heq : (between.render fields field operand').toOption =
      (between.render fields field operand).toOption) :
    operand' = operand := by
  obtain ⟨low', high', hspans', hlow, hhigh, hsame⟩ := h.exists_spans hspans
  obtain ⟨hlowOpen, hhighOpen⟩ :=
    sides_of_render_between hfield hspans hspans' hlow.rel hhigh.rel hrefuses heq
  exact hsame (hlow.eq_of_isOpen hlowOpen) (hhigh.eq_of_isOpen hhighOpen)

end Bounds

/-- No bound of a range test is respelled, or the column refuses a bound that is there. -/
def KeepsRange (fields : FieldSet) (field : String) (operator : Operator)
    (operand operand' : Operand) : Prop :=
  operator = .between → ∀ low high, operand.Spans low high → operand' = operand ∨
    RefusesBound fields field low high

/-- On a nullable column, null and the text of its literal make the same outcome under every
operator that is there from the start, unless the operator is a range test, null is one of its
bounds, and the column refuses no bound that is there: then the test renders differently, or in one
of the spellings only. -/
theorem null_spellings_agree_iff (fields : FieldSet) (field : String) (inner : ColumnType)
    (hfield : fields.get field = .ok (.nullable inner)) (name : String) (operator : Operator)
    (hname : Registry.builtin.resolve? name = some operator) (operand operand' : Operand)
    (h : operator.Respells operand operand') :
    ((operator.render fields field operand').toOption =
      (operator.render fields field operand).toOption ↔
        KeepsRange fields field operator operand operand') ∧
      (KeepsRange fields field operator operand operand' →
        operator.render fields field operand' = operator.render fields field operand) := by
  rcases readsLiterals_or_eq_between hname with hreads | rfl
  case inl =>
    have heq := render_respelled hfield hreads h
    have hkeeps : KeepsRange fields field operator operand operand' := by
      rintro rfl
      cases hreads
    exact ⟨iff_of_true (congrArg _ heq) hkeeps, fun _ => heq⟩
  case inr =>
    have hsame : KeepsRange fields field .between operand operand' →
        between.render fields field operand' = between.render fields field operand := by
      intro hkeeps
      by_cases hspans : ∃ low high, operand.Spans low high
      · obtain ⟨low, high, hspans⟩ := hspans
        rcases hkeeps rfl low high hspans with rfl | hrefuses
        · rfl
        · exact render_between_respelled hfield h hspans hrefuses
      · exact render_between_of_not_spans h fun low high hs => hspans ⟨low, high, hs⟩
    refine ⟨⟨fun heq _ low high hspans => ?_, fun hkeeps => congrArg _ (hsame hkeeps)⟩, hsame⟩
    by_cases hrefuses : RefusesBound fields field low high
    · exact .inr hrefuses
    · exact .inl (eq_of_render_between hfield h hspans hrefuses heq)

/-- A list with a null member, and a range of which the column refuses the upper bound. -/
theorem null_spellings_agree_iff_passports :
    let fields := Model.person.fields
    let spelled := Value.string "\\N"
    let listed (v : Value) := Operand.value (.array [v, .int 7])
    let refused (v : Value) := Operand.range (some v) (some (.string "many"))
    (fields.get "passport" = .ok (.nullable (.int .uint32)) ∧
        Registry.builtin.resolve? "in" = some membership ∧
        membership.Respells (listed .null) (listed spelled) ∧
        membership.render fields "passport" (listed .null) = .ok "passport IN (\\N, 7)" ∧
        membership.render fields "passport" (listed spelled) = .ok "passport IN (\\N, 7)") ∧
      Registry.builtin.resolve? "between" = some between ∧
        between.Respells (refused .null) (refused spelled) ∧
        KeepsRange fields "passport" between (refused .null) (refused spelled) ∧
        between.render fields "passport" (refused spelled) =
          .error (.conversion "passport" (.unexpected "integer" (.string "many"))) := by
  intro fields spelled listed refused
  have hspelled : Value.null.Respelled spelled := .inr ⟨rfl, rfl⟩
  have hlisted : membership.Respells (listed .null) (listed spelled) :=
    .items rfl (.cons hspelled (.cons (.inl rfl) .nil))
  have hrefused : between.Respells (refused .null) (refused spelled) :=
    .range (boundRespelled_of_respelled hspelled) (.inl rfl)
  have hkeeps : KeepsRange fields "passport" between (refused .null) (refused spelled) := by
    rintro - _ _ ⟨⟩
    exact .inr ⟨.string "many", .inr (present_eq_some_iff.mp rfl), rfl⟩
  obtain ⟨-, hmembers⟩ := null_spellings_agree_iff fields "passport" _ rfl "in" _ rfl _ _ hlisted
  obtain ⟨-, hrange⟩ :=
    null_spellings_agree_iff fields "passport" _ rfl "between" _ rfl _ _ hrefused
  exact ⟨⟨rfl, rfl, hlisted, rfl, hmembers nofun⟩, rfl, hrefused, hkeeps, hrange hkeeps⟩

/-- As the lower bound of a range or of an array, null leaves the test with the upper bound, and the
text of its literal is compared with; and between two nulls there is no test, while between their
spellings there is one. -/
theorem between_tells_nulls_apart :
    let fields := Model.person.fields
    let spelled := Value.string "\\N"
    let range (v : Value) := Operand.range (some v) (some (.int 5))
    let pair (v : Value) := Operand.value (.array [v, .int 5])
    let nulls (v : Value) := Operand.range (some v) (some v)
    fields.get "passport" = .ok (.nullable (.int .uint32)) ∧
    Registry.builtin.resolve? "between" = some between ∧
      (between.Respells (range .null) (range spelled) ∧
        between.render fields "passport" (range .null) = .ok "passport <= 5" ∧
        between.render fields "passport" (range spelled) = .ok "passport BETWEEN \\N AND 5") ∧
      (between.Respells (pair .null) (pair spelled) ∧
        between.render fields "passport" (pair .null) = .ok "passport <= 5" ∧
        between.render fields "passport" (pair spelled) = .ok "passport BETWEEN \\N AND 5") ∧
      between.Respells (nulls .null) (nulls spelled) ∧
        between.render fields "passport" (nulls .null) =
          .error (.invalidArgument (.noBound "passport")) ∧
        between.render fields "passport" (nulls spelled) = .ok "passport BETWEEN \\N AND \\N" := by
  intro fields spelled range pair nulls
  have hspelled : Value.null.Respelled spelled := .inr ⟨rfl, rfl⟩
  have hbound : BoundRespelled (some .null) (some spelled) := boundRespelled_of_respelled hspelled
  exact ⟨rfl, rfl, ⟨.range hbound (.inl rfl), rfl, rfl⟩,
    ⟨.items rfl (.cons hspelled (.cons (.inl rfl) .nil)), rfl, rfl⟩, .range hbound hbound, rfl, rfl⟩

end Operator

end SelectBuilder
