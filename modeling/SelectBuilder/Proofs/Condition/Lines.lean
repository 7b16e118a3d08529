import SelectBuilder.Condition.Basic
import SelectBuilder.Proofs.Column.Forms
import SelectBuilder.Proofs.Condition.Grouping
import SelectBuilder.Proofs.Condition.Members
import SelectBuilder.Proofs.Condition.UnknownField
import SelectBuilder.Proofs.Text.OneLine

/-! Conditions stay on one line, whatever their values are. Operators add no line feed to literals,
and trees add none to the texts of their leaves. -/
namespace SelectBuilder

open Text (OneLine)

theorem Text.oneLine_literalProperty : LiteralProperty fun _ s => OneLine s where
  null := by decide
  bare _ _ _ h := oneLine_of_bare h
  quoted _ s _ := oneLine_quote s
  list items text h := by
    have hitems : OneLine (commaJoin (items.map text)) :=
      oneLine_commaJoin (List.forall_mem_map.mpr h)
    simp +decide [hitems]

theorem ColumnType.oneLine_literal (type : ColumnType) (quoted : Bool) (v : Value) :
    OneLine (type.literal quoted v) := by
  have hquoted := Text.oneLine_literalProperty.column type v
  cases quoted with
  | true => exact hquoted
  | false =>
    cases hv : v.isText with
    | true =>
      obtain ⟨s, hs⟩ := type.literal_unquoted hv
      rw [hs]
      exact Text.oneLine_escape s
    | false => rwa [type.literal_unquoted_eq hv]

theorem FieldSet.oneLine_literal {fields : FieldSet} {name text : String} {raw : Value}
    (h : fields.literal name raw = .ok text) : OneLine text := by
  obtain ⟨type, -, h⟩ := Outcome.bind_eq_ok.mp h
  obtain ⟨v, -, h⟩ := Outcome.bind_eq_ok.mp h
  obtain rfl := Except.ok.inj h
  exact type.oneLine_literal true v

namespace Operator

/-- An operator whose own words have no line feed. -/
def isInline : Operator → Bool
  | .comparison symbol nullForm =>
    decide (OneLine symbol) && nullForm.all fun form => decide (OneLine form)
  | .membership | .caselessEqual | .between => true
  | .negation inner => inner.isInline
  | .like pattern _ => decide (OneLine pattern)
  | .custom .. => false

theorem Standard.isInline {operator : Operator} (h : operator.Standard) :
    operator.isInline = true := by
  induction h with
  | builtin h =>
    exact Entries.forall_get?_ofList (P := (·.isInline = true)) (List.all_eq_true.mp rfl) _ _ h
  | negation _ ih => exact ih

variable {fields : FieldSet} {field text : String} {operand : Operand}

theorem oneLine_likePattern {pattern : String} (hpattern : OneLine pattern)
    (h : likePattern pattern fields field operand = .ok text) : OneLine text := by
  obtain ⟨type, -, h⟩ := Outcome.bind_eq_ok.mp h
  obtain ⟨raw, -, h⟩ := Outcome.bind_eq_ok.mp h
  obtain ⟨v, -, h⟩ := Outcome.bind_eq_ok.mp h
  obtain rfl := Except.ok.inj h
  exact Text.oneLine_fill hpattern (Text.oneLine_likeBody (type.oneLine_literal false v))

theorem oneLine_betweenText {low high : Option Value} (hfield : OneLine field)
    (h : betweenText fields field low high = .ok text) : OneLine text := by
  unfold betweenText at h
  split at h
  next low high =>
    obtain ⟨lowText, hlow, h⟩ := Outcome.bind_eq_ok.mp h
    obtain ⟨highText, hhigh, h⟩ := Outcome.bind_eq_ok.mp h
    obtain rfl := Except.ok.inj h
    simp +decide [hfield, FieldSet.oneLine_literal hlow, FieldSet.oneLine_literal hhigh]
  next low =>
    obtain ⟨lowText, hlow, h⟩ := Outcome.bind_eq_ok.mp h
    obtain rfl := Except.ok.inj h
    simp +decide [hfield, FieldSet.oneLine_literal hlow]
  next high =>
    obtain ⟨highText, hhigh, h⟩ := Outcome.bind_eq_ok.mp h
    obtain rfl := Except.ok.inj h
    simp +decide [hfield, FieldSet.oneLine_literal hhigh]
  next => cases h

/-- What an operator makes of a value or a range has a line feed only if the name of the field has
one. -/
theorem oneLine_render {operator : Operator} (ho : operator.isInline = true)
    (hk : operand.kind = .value ∨ operand.kind = .range) (hfield : OneLine field)
    (h : operator.render fields field operand = .ok text) : OneLine text := by
  induction operator generalizing text with
  | comparison symbol nullForm =>
    obtain ⟨raw, -, h⟩ := Outcome.bind_eq_ok.mp h
    obtain ⟨literal, hliteral, h⟩ := Outcome.bind_eq_ok.mp h
    obtain rfl := Except.ok.inj h
    obtain ⟨hsymbol, hforms⟩ := Bool.and_eq_true_iff.mp ho
    have hcompare : OneLine (field ++ " " ++ symbol ++ " " ++ literal) := by
      simp +decide [hfield, of_decide_eq_true hsymbol, FieldSet.oneLine_literal hliteral]
    cases nullForm with
    | none => exact hcompare
    | some form =>
      have hform : OneLine form := of_decide_eq_true hforms
      unfold comparisonText
      dsimp only
      split
      · simp +decide [hfield, hform]
      · exact hcompare
  | membership =>
    obtain ⟨members, hmembers, h⟩ := Outcome.bind_eq_ok.mp h
    obtain rfl := Except.ok.inj h
    have hlist : OneLine members :=
      members_of_literals (fun _ _ => FieldSet.oneLine_literal) (fun _ => Text.oneLine_commaJoin)
        hk hmembers
    simp +decide [hfield, hlist]
  | negation inner ih =>
    obtain ⟨s, hs, h⟩ := Outcome.bind_eq_ok.mp h
    obtain rfl := Except.ok.inj h
    simp +decide [ih ho hs]
  | like pattern caseSensitive =>
    obtain ⟨body, hbody, h⟩ := Outcome.bind_eq_ok.mp h
    obtain rfl := Except.ok.inj h
    have hpattern := oneLine_likePattern (of_decide_eq_true ho) hbody
    cases caseSensitive <;> simp +decide [likeText, hfield, hpattern]
  | caselessEqual =>
    obtain ⟨raw, -, h⟩ := Outcome.bind_eq_ok.mp h
    obtain ⟨literal, hliteral, h⟩ := Outcome.bind_eq_ok.mp h
    obtain rfl := Except.ok.inj h
    simp +decide [hfield, FieldSet.oneLine_literal hliteral]
  | between =>
    obtain ⟨⟨low, high⟩, -, h⟩ := Outcome.bind_eq_ok.mp h
    exact oneLine_betweenText hfield h
  | custom name render => cases ho

/-- An operator that makes one line of a value or a range on a name that is one line. -/
def KeepsLine (operator : Operator) : Prop :=
  ∀ (fields : FieldSet) (field text : String) (operand : Operand),
    operand.kind = .value ∨ operand.kind = .range → OneLine field →
    operator.render fields field operand = .ok text →
      OneLine text

theorem keepsLine_of_isInline {operator : Operator} (h : operator.isInline = true) :
    operator.KeepsLine :=
  fun _ _ _ _ => oneLine_render h

end Operator

/-- A leaf made with an operator that is there from the start and a value or a range, on a name
without a line feed. -/
structure Condition.Inline (c : Condition) : Prop where
  operator : c.operator.Standard
  operand : c.operand.kind = .value ∨ c.operand.kind = .range
  field : OneLine c.field

structure Condition.KeepsLine (c : Condition) : Prop where
  operator : c.operator.KeepsLine
  operand : c.operand.kind = .value ∨ c.operand.kind = .range
  field : OneLine c.field

theorem Condition.Inline.keepsLine {c : Condition} (h : c.Inline) : c.KeepsLine :=
  ⟨Operator.keepsLine_of_isInline h.operator.isInline, h.operand, h.field⟩

namespace Tree

theorem oneLine_joinParts {mode : Connective} {parts : List String} (h : ∀ s ∈ parts, OneLine s) :
    OneLine (joinParts mode parts) := by
  have hseparator : OneLine (") " ++ mode.keyword ++ " (") := by cases mode <;> decide
  unfold joinParts
  split
  · decide
  · exact h _ (List.mem_singleton_self _)
  · simp +decide [Text.oneLine_intercalate hseparator h]

/-- What holds of the texts of the leaves and passes through connectives and negations holds of the
text of a tree. -/
theorem render_of_leaves {α ε : Type} {P : String → Prop} {leafText : α → Except ε String}
    {t : Tree α} {text : String}
    (hjoin : ∀ mode parts, (∀ s ∈ parts, P s) → P (joinParts mode parts))
    (hnegate : ∀ s, P s → P ("NOT (" ++ s ++ ")"))
    (hleaves : ∀ a ∈ t.allLeaves, ∀ s, leafText a = .ok s → P s)
    (h : t.render leafText = .ok text) : P text := by
  induction t generalizing text with
  | node mode negated leaves children ih =>
    rw [render, renderChildren_eq_mapM] at h
    obtain ⟨own, hown, h⟩ := Outcome.bind_eq_ok.mp h
    obtain ⟨nested, hnested, h⟩ := Outcome.bind_eq_ok.mp h
    obtain rfl := Except.ok.inj h
    have hparts : ∀ s ∈ own ++ nested, P s := by
      refine List.forall_mem_append.mpr ⟨fun s hs => ?_, fun s hs => ?_⟩
      · obtain ⟨a, ha, has⟩ := Outcome.exists_of_mem_mapM hown hs
        exact hleaves a (mem_allLeaves_node.mpr (.inl ha)) s has
      · obtain ⟨c, hc, hcs⟩ := Outcome.exists_of_mem_mapM hnested hs
        exact ih c (List.mem_filter.mp hc).1
          (fun a ha => hleaves a (mem_allLeaves_node.mpr (.inr ⟨c, hc, ha⟩))) hcs
    cases negated with
    | true => exact hnegate _ (hjoin mode _ hparts)
    | false => exact hjoin mode _ hparts

theorem oneLine_conditionsText {fields : FieldSet} {t : Tree Condition} {text : String}
    (hleaves : ∀ c ∈ t.allLeaves, c.KeepsLine) (h : t.render (Condition.render fields) = .ok text) :
    OneLine text := by
  refine render_of_leaves (fun _ _ => oneLine_joinParts) (fun s hs => by simp +decide [hs]) ?_ h
  intro c hc s hs
  have hleaf := hleaves c hc
  exact hleaf.operator fields c.field s c.operand hleaf.operand hleaf.field hs

end Tree

end SelectBuilder
