import SelectBuilder.Proofs.Condition.Bounds

/-! Operands in place of each other. If a column makes the same of their values, an operator that
reads nothing but literals makes the same text of them, and so does a range test that has a bound on
the same sides. -/
namespace SelectBuilder

open Outcome (failure?)

/-- The value itself, or another one that the column accepts as the same. -/
def ColumnType.TakesAlike (type : ColumnType) (v w : Value) : Prop :=
  w = v ∨ ∃ x, type.normalize Zone.utc v = .ok x ∧ type.normalize Zone.utc w = .ok x

theorem ColumnType.TakesAlike.normalize_eq {type : ColumnType} {v w : Value}
    (h : type.TakesAlike v w) :
    type.normalize Zone.utc w = type.normalize Zone.utc v := by
  rcases h with rfl | ⟨x, hv, hw⟩
  · rfl
  · rw [hv, hw]

def Value.isArray : Value → Bool
  | .array _ => true
  | _ => false

theorem Operand.Spans.unique {operand : Operand} {low high low' high' : Option Value}
    (h : operand.Spans low high) (h' : operand.Spans low' high') : low = low' ∧ high = high' := by
  cases h <;> cases h' <;> exact ⟨rfl, rfl⟩

namespace Operator

/-- An operator that makes something of the items of an array, be they members or bounds. -/
def takesItems : Operator → Bool
  | .membership | .between => true
  | .negation inner => inner.takesItems
  | _ => false

/-- The values of two operands stand in a relation: the single ones, the items of lists, or the
bounds of ranges. Where an operator takes items, an array is always a list of them and never a
single value. -/
inductive Relates (operator : Operator) (R : Value → Value → Prop) : Operand → Operand → Prop
  | value {v w : Value}
      (hitems : operator.takesItems = true → v.isArray = false ∧ w.isArray = false) (h : R v w) :
      Relates operator R (.value v) (.value w)
  | items {vs ws : List Value} (hitems : operator.takesItems = true) (h : List.Forall₂ R vs ws) :
      Relates operator R (.value (.array vs)) (.value (.array ws))
  | range {low low' high high' : Option Value} (hlow : Option.Rel R low low')
      (hhigh : Option.Rel R high high') :
      Relates operator R (.range low high) (.range low' high')

theorem Relates.imp {operator : Operator} {R S : Value → Value → Prop} {operand operand' : Operand}
    (h : operator.Relates R operand operand') (himp : ∀ v w, R v w → S v w) :
    operator.Relates S operand operand' := by
  have hbound : ∀ {low low' : Option Value}, Option.Rel R low low' →
      Option.Rel S low low' := fun hrel => by
    cases hrel with
    | none => exact .none
    | some h => exact .some (himp _ _ h)
  cases h with
  | value hitems h => exact .value hitems (himp _ _ h)
  | items hitems h => exact .items hitems (h.imp himp)
  | range hlow hhigh => exact .range (hbound hlow) (hbound hhigh)

/-- An operator that sees an operand only through the literals of its values. -/
def readsLiterals : Operator → Bool
  | .comparison .. | .membership | .like .. | .caselessEqual => true
  | .negation inner => inner.readsLiterals
  | .between | .custom .. => false

def isBetween : Operator → Bool
  | .between => true
  | _ => false

theorem isBetween_iff {operator : Operator} : operator.isBetween = true ↔ operator = .between := by
  cases operator <;> simp [isBetween]

/-- Of the operators that are there from the start, only the range test sees more of an operand than
literals. -/
theorem readsLiterals_or_eq_between {name : String} {operator : Operator}
    (h : Registry.builtin.resolve? name = some operator) :
    operator.readsLiterals = true ∨ operator = .between := by
  rw [← isBetween_iff, ← Bool.or_eq_true]
  refine Entries.forall_get?_ofList (P := fun o => (o.readsLiterals || o.isBetween) = true) ?_
    name operator h
  exact List.all_eq_true.mp rfl

variable {fields : FieldSet} {field : String} {type : ColumnType}

section Literals

variable (hfield : fields.get field = .ok type) {operator : Operator} {operand operand' : Operand}
  {v w : Value}
include hfield

theorem literal_of_takesAlike (h : type.TakesAlike v w) :
    fields.literal field w = fields.literal field v := by
  rw [FieldSet.literal_eq_map hfield, FieldSet.literal_eq_map hfield, FieldSet.normalize,
    FieldSet.normalize, h.normalize_eq]

theorem likePattern_of_takesAlike (pattern : String) (h : type.TakesAlike v w) :
    likePattern pattern fields field (.value w) = likePattern pattern fields field (.value v) := by
  have hpattern : ∀ raw, likePattern pattern fields field (.value raw) =
      (FieldSet.normalize type field raw).map fun v =>
        Text.fill pattern (Text.likeBody (type.literal false v)) := by
    intro raw
    rw [likePattern, hfield]
    rfl
  rw [hpattern, hpattern, FieldSet.normalize, FieldSet.normalize, h.normalize_eq]

omit hfield in
theorem members_of_not_isArray (h : v.isArray = false) :
    members fields field (.value v) = fields.literal field v := by
  cases v with
  | array => cases h
  | _ => rfl

theorem members_of_relates (h : membership.Relates type.TakesAlike operand operand') :
    members fields field operand' = members fields field operand := by
  cases h with
  | value hitems h =>
    obtain ⟨hv, hw⟩ := hitems rfl
    rw [members_of_not_isArray hv, members_of_not_isArray hw, literal_of_takesAlike hfield h]
  | items _ h =>
    rw [members, members, Outcome.mapM_eq_of_forall₂ h fun v w => literal_of_takesAlike hfield]
  | range => rfl

theorem render_of_relates (hreads : operator.readsLiterals = true)
    (h : operator.Relates type.TakesAlike operand operand') :
    operator.render fields field operand' = operator.render fields field operand := by
  induction operator with
  | comparison symbol nullForm =>
    cases h with
    | value _ h => rw [render_comparison, render_comparison, literal_of_takesAlike hfield h]
    | items hitems => cases hitems
    | range => rfl
  | membership => rw [render, render, members_of_relates hfield h]
  | negation inner ih =>
    have hinner : inner.Relates type.TakesAlike operand operand' := by
      cases h with
      | value hitems h => exact .value hitems h
      | items hitems h => exact .items hitems h
      | range hlow hhigh => exact .range hlow hhigh
    rw [render, render, ih hreads hinner]
  | like pattern caseSensitive =>
    cases h with
    | value _ h => rw [render, render, likePattern_of_takesAlike hfield pattern h]
    | items hitems => cases hitems
    | range => rfl
  | caselessEqual =>
    cases h with
    | value _ h => rw [render_caselessEqual, render_caselessEqual, literal_of_takesAlike hfield h]
    | items hitems => cases hitems
    | range => rfl
  | between => cases hreads
  | custom name render => cases hreads

end Literals

section Bounds

variable {low low' high high' : Option Value} {operand operand' : Operand}

def RefusesBound (fields : FieldSet) (field : String) (low high : Option Value) : Prop :=
  ∃ v, (IsBoundedBy low v ∨ IsBoundedBy high v) ∧ (fields.literal field v).isOk = false

def refusal? (fields : FieldSet) (field : String) (bound : Option Value) : Option QueryError :=
  bound.bind fun v => failure? (fields.literal field v)

theorem isSome_refusal?_iff {bound : Option Value} :
    (refusal? fields field (present bound)).isSome = true ↔
      ∃ v, IsBoundedBy bound v ∧ (fields.literal field v).isOk = false := by
  simp only [← present_eq_some_iff]
  cases present bound with
  | none => simp [refusal?]
  | some w =>
    have hrefused : (failure? (fields.literal field w)).isSome = true ↔
        (fields.literal field w).isOk = false := by
      rw [← Option.ne_none_iff_isSome, ne_eq, Outcome.failure?_eq_none, Bool.not_eq_true]
    simp [refusal?, hrefused]

theorem refusesBound_iff : RefusesBound fields field low high ↔
    ∃ e, (refusal? fields field (present low)).or (refusal? fields field (present high)) =
      some e := by
  rw [← Option.isSome_iff_exists, Option.isSome_or, Bool.or_eq_true, isSome_refusal?_iff,
    isSome_refusal?_iff, ← exists_or]
  exact exists_congr fun v => or_and_right

/-- A range test fails as the first bound that the column refuses. -/
theorem betweenText_eq_error {e : QueryError}
    (h : (refusal? fields field low).or (refusal? fields field high) = some e) :
    betweenText fields field low high = .error e := by
  rw [← Outcome.failure?_eq_some, ← h]
  match low, high with
  | some v, some w => exact Outcome.failure?_bind fun _ => Outcome.failure?_bind_pure _ _
  | some v, none => exact (Outcome.failure?_bind_pure _ _).trans Option.or_none.symm
  | none, some w => exact Outcome.failure?_bind_pure _ _
  | none, none => cases h

/-- The word behind the field tells which bounds there are. -/
def rangeWord? : Bool → Bool → Option String
  | true, true => some " BETWEEN "
  | true, false => some " >= "
  | false, true => some " <= "
  | false, false => none

theorem exists_rangeWord? (h : (refusal? fields field low).or (refusal? fields field high) = none) :
    ∃ rest, (betweenText fields field low high).toOption =
      (rangeWord? low.isSome high.isSome).map fun word => field ++ word ++ rest := by
  have hliteral : ∀ v, failure? (fields.literal field v) = none →
      ∃ a, fields.literal field v = .ok a := fun v hv =>
    Outcome.isOk_iff.mp (Outcome.failure?_eq_none.mp hv)
  obtain ⟨hlow, hhigh⟩ := Option.or_eq_none_iff.mp h
  match low, high with
  | some v, some w =>
    obtain ⟨a, ha⟩ := hliteral v hlow
    obtain ⟨b, hb⟩ := hliteral w hhigh
    have htext : field ++ " BETWEEN " ++ a ++ " AND " ++ b = field ++ " BETWEEN " ++
        (a ++ " AND " ++ b) := by
      simp only [String.append_assoc]
    exact ⟨_, congrArg Except.toOption (betweenText_eq_ok.mpr ⟨a, b, ha, hb, htext.symm⟩)⟩
  | some v, none =>
    obtain ⟨a, ha⟩ := hliteral v hlow
    refine ⟨a, ?_⟩
    rw [betweenText_low, render_atLeast, ha]
    rfl
  | none, some w =>
    obtain ⟨b, hb⟩ := hliteral w hhigh
    refine ⟨b, ?_⟩
    rw [betweenText_high, render_atMost, hb]
    rfl
  | none, none => exact ⟨"", rfl⟩

theorem rangeWord?_inj {low high low' high' : Bool} {rest rest' : String}
    (h : ((rangeWord? low high).map fun word => field ++ word ++ rest) =
      (rangeWord? low' high').map fun word => field ++ word ++ rest') :
        low = low' ∧ high = high' := by
  have htext := congrArg (Option.map String.toList) h
  cases low <;> cases high <;> cases low' <;> cases high' <;> simp [rangeWord?] at htext ⊢

theorem present_some_eq (v : Value) : present (some v) = none ∨ present (some v) = some v := by
  cases h : present (some v) with
  | none => exact .inl rfl
  | some w => exact .inr (congrArg some (Option.some.inj (present_eq_some_iff.mp h).1).symm)

theorem isSome_present_eq_iff :
    (present low').isSome = (present low).isSome ↔ (IsOpen low' ↔ IsOpen low) := by
  rw [← present_eq_none_iff, ← present_eq_none_iff, Bool.eq_iff_iff, Option.isSome_iff_ne_none,
    Option.isSome_iff_ne_none, not_iff_not]

theorem Relates.exists_spans {R : Value → Value → Prop} (h : between.Relates R operand operand')
    (hspans : operand.Spans low high) :
    ∃ low' high', operand'.Spans low' high' ∧ Option.Rel R low low' ∧ Option.Rel R high high' := by
  cases hspans with
  | range =>
    cases h with
    | range hlow hhigh => exact ⟨_, _, .range _ _, hlow, hhigh⟩
  | array v w =>
    cases h with
    | value hitems => cases (hitems rfl).1
    | items _ h =>
      obtain ⟨v', _, hv, hrest, rfl⟩ := List.forall₂_cons_left_iff.mp h
      obtain ⟨w', _, hw, hnil, rfl⟩ := List.forall₂_cons_left_iff.mp hrest
      obtain rfl := List.forall₂_nil_left_iff.mp hnil
      exact ⟨_, _, .array v' w', .some hv, .some hw⟩

theorem render_between_of_relates {R : Value → Value → Prop}
    (h : between.Relates R operand operand') (hspans : ∀ low high, ¬ operand.Spans low high) :
    between.render fields field operand' = between.render fields field operand := by
  have hscalar : ∀ v : Value, v.isArray = false →
      between.render fields field (.value v) =
        .error (.invalidArgument (.betweenShape .value)) := by
    intro v hv
    cases v with
    | array => cases hv
    | _ => rfl
  cases h with
  | value hitems =>
    obtain ⟨hv, hw⟩ := hitems rfl
    rw [hscalar _ hv, hscalar _ hw]
  | items _ h =>
    match h with
    | .nil => rfl
    | .cons _ .nil => rfl
    | .cons _ (.cons _ .nil) => exact absurd (.array _ _) (hspans _ _)
    | .cons _ (.cons _ (.cons _ _)) => rfl
  | range => exact absurd (.range _ _) (hspans _ _)

section Alike

variable (hfield : fields.get field = .ok type)
include hfield

/-- Of two values that a column takes alike, either both are refused as bounds or none is. -/
theorem refusal?_of_rel {bound other : Option Value} (h : Option.Rel type.TakesAlike bound other) :
    refusal? fields field (present other) = refusal? fields field (present bound) := by
  have haccepted : ∀ v x, type.normalize Zone.utc v = .ok x →
      refusal? fields field (present (some v)) = none := by
    intro v x hx
    rcases present_some_eq v with hpresent | hpresent
    · rw [hpresent]
      rfl
    · rw [hpresent, refusal?, Option.bind_some, FieldSet.literal_of_normalize hfield hx]
      rfl
  cases h with
  | none => rfl
  | some h =>
    rcases h with rfl | ⟨x, hv, hw⟩
    · rfl
    · rw [haccepted _ x hv, haccepted _ x hw]

theorem betweenText_of_rel (hlow : Option.Rel type.TakesAlike low low')
    (hhigh : Option.Rel type.TakesAlike high high') :
    betweenText fields field low' high' = betweenText fields field low high := by
  have hliteral : ∀ {v w : Value}, type.TakesAlike v w →
      fields.literal field w = fields.literal field v :=
    literal_of_takesAlike hfield
  cases hlow with
  | none =>
    cases hhigh with
    | none => rfl
    | some hhigh => rw [betweenText, betweenText, hliteral hhigh]
  | some hlow =>
    cases hhigh with
    | none => rw [betweenText, betweenText, hliteral hlow]
    | some hhigh => rw [betweenText, betweenText, hliteral hlow, hliteral hhigh]

omit hfield in
theorem rel_present {bound other : Option Value} (h : Option.Rel type.TakesAlike bound other)
    (hopen : IsOpen other ↔ IsOpen bound) :
    Option.Rel type.TakesAlike (present bound) (present other) := by
  have hsome := isSome_present_eq_iff.mpr hopen
  cases h with
  | none => exact .none
  | @some v w h =>
    rcases present_some_eq v with hv | hv <;> rcases present_some_eq w with hw | hw <;>
      rw [hv, hw] at hsome ⊢
    · exact .none
    · cases hsome
    · cases hsome
    · exact .some h

section Sides

variable (hspans : operand.Spans low high) (hspans' : operand'.Spans low' high')
  (hlow : Option.Rel type.TakesAlike low low') (hhigh : Option.Rel type.TakesAlike high high')
include hspans hspans' hlow hhigh

/-- The column refuses a bound whatever stands on the other side. -/
theorem render_between_of_refusesBound (hrefuses : RefusesBound fields field low high) :
    between.render fields field operand' = between.render fields field operand := by
  obtain ⟨e, he⟩ := refusesBound_iff.mp hrefuses
  -- A value taken as another one is not refused, so the first bound that is refused stays first.
  have he' := he
  rw [← refusal?_of_rel hfield hlow, ← refusal?_of_rel hfield hhigh] at he'
  rw [render_between hspans, render_between hspans', betweenText_eq_error he,
    betweenText_eq_error he']

theorem render_between_of_sides (hlowOpen : IsOpen low' ↔ IsOpen low)
    (hhighOpen : IsOpen high' ↔ IsOpen high) :
    between.render fields field operand' = between.render fields field operand := by
  rw [render_between hspans, render_between hspans',
    betweenText_of_rel hfield (rel_present hlow hlowOpen) (rel_present hhigh hhighOpen)]

/-- If no bound is refused, the text shows on which sides there are bounds. -/
theorem sides_of_render_between (hrefuses : ¬ RefusesBound fields field low high)
    (heq : (between.render fields field operand').toOption =
      (between.render fields field operand).toOption) :
    (IsOpen low' ↔ IsOpen low) ∧ (IsOpen high' ↔ IsOpen high) := by
  have hnone :=
    Option.eq_none_iff_forall_ne_some.mpr (not_exists.mp (refusesBound_iff.not.mp hrefuses))
  have hnone' := hnone
  rw [← refusal?_of_rel hfield hlow, ← refusal?_of_rel hfield hhigh] at hnone'
  obtain ⟨rest, htext⟩ := exists_rangeWord? hnone
  obtain ⟨rest', htext'⟩ := exists_rangeWord? hnone'
  rw [render_between hspans, render_between hspans', htext, htext'] at heq
  exact (rangeWord?_inj heq).imp isSome_present_eq_iff.mp isSome_present_eq_iff.mp

end Sides

end Alike

end Bounds

/-- A range test has bounds on the same sides, or the column refuses a bound that is there. -/
def KeepsSides (fields : FieldSet) (field : String) (operator : Operator)
    (operand operand' : Operand) : Prop :=
  operator = .between → ∀ low high low' high', operand.Spans low high → operand'.Spans low' high' →
    ((IsOpen low' ↔ IsOpen low) ∧ (IsOpen high' ↔ IsOpen high)) ∨ RefusesBound fields field low high

/-- Under the operators that are there from the start, values that a column takes alike make the
same outcome, unless a range test loses or gains a bound by them. -/
theorem render_takesAlike_iff {fields : FieldSet} {field : String} {type : ColumnType}
    (hfield : fields.get field = .ok type) {name : String} {operator : Operator}
    (hname : Registry.builtin.resolve? name = some operator) {operand operand' : Operand}
    (h : operator.Relates type.TakesAlike operand operand') :
    ((operator.render fields field operand').toOption =
      (operator.render fields field operand).toOption ↔
        KeepsSides fields field operator operand operand') ∧
      (KeepsSides fields field operator operand operand' →
        operator.render fields field operand' = operator.render fields field operand) := by
  rcases readsLiterals_or_eq_between hname with hreads | rfl
  case inl =>
    have heq := render_of_relates hfield hreads h
    have hkeeps : KeepsSides fields field operator operand operand' := by
      rintro rfl
      cases hreads
    exact ⟨iff_of_true (congrArg _ heq) hkeeps, fun _ => heq⟩
  case inr =>
    have hsame : KeepsSides fields field .between operand operand' →
        between.render fields field operand' = between.render fields field operand := by
      intro hkeeps
      by_cases hspans : ∃ low high, operand.Spans low high
      · obtain ⟨low, high, hspans⟩ := hspans
        obtain ⟨low', high', hspans', hlow, hhigh⟩ := h.exists_spans hspans
        rcases hkeeps rfl low high low' high' hspans hspans' with ⟨hlowOpen, hhighOpen⟩ | hrefuses
        · exact render_between_of_sides hfield hspans hspans' hlow hhigh hlowOpen hhighOpen
        · exact render_between_of_refusesBound hfield hspans hspans' hlow hhigh hrefuses
      · exact render_between_of_relates h fun low high hs => hspans ⟨low, high, hs⟩
    refine ⟨⟨fun heq _ low high low' high' hspans hspans' => ?_,
      fun hkeeps => congrArg _ (hsame hkeeps)⟩, hsame⟩
    by_cases hrefuses : RefusesBound fields field low high
    · exact .inr hrefuses
    · obtain ⟨low₁, high₁, hspans₁, hlow, hhigh⟩ := h.exists_spans hspans
      obtain ⟨rfl, rfl⟩ := hspans₁.unique hspans'
      exact .inl (sides_of_render_between hfield hspans hspans' hlow hhigh hrefuses heq)

end Operator

end SelectBuilder
