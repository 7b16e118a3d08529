import SelectBuilder.Condition.Operator
import SelectBuilder.Proofs.Column.Reading

/-! Literals in a statement. A literal made from what a caller passes ends where it should and
stands for the normalized value, and a membership test lists exactly the normalized items. -/
namespace SelectBuilder

open Numeral (NoDigitAhead)

variable {fields : FieldSet} {field : String} {type : ColumnType}

theorem FieldSet.literal_eq_map (hfield : fields.get field = .ok type) (raw : Value) :
    fields.literal field raw = (normalize type field raw).map (type.literal true) := by
  rw [literal, hfield]
  rfl

theorem FieldSet.literal_eq_ok (hfield : fields.get field = .ok type) {raw : Value}
    {text : String} :
    fields.literal field raw = .ok text ↔
      ∃ v, type.normalize Zone.utc raw = .ok v ∧ type.literal true v = text := by
  rw [literal_eq_map hfield, Outcome.map_eq_ok]
  exact exists_congr fun v => and_congr_left' Outcome.mapError_eq_ok

theorem FieldSet.literal_of_normalize (hfield : fields.get field = .ok type) {raw v : Value}
    (h : type.normalize Zone.utc raw = .ok v) :
    fields.literal field raw = .ok (type.literal true v) :=
  (literal_eq_ok hfield).mpr ⟨v, h, rfl⟩

theorem Operator.render_comparison (symbol : String) (nullForm : Option String) (raw : Value) :
    (comparison symbol nullForm).render fields field (.value raw) =
      (fields.literal field raw).map (comparisonText symbol nullForm field) :=
  rfl

theorem Operator.render_caselessEqual (raw : Value) :
    caselessEqual.render fields field (.value raw) =
      (fields.literal field raw).map fun s =>
        "lowerUTF8(" ++ field ++ ") = lowerUTF8(" ++ s ++ ")" :=
  rfl

theorem Operator.members_array (hfield : fields.get field = .ok type) {raws values : List Value}
    (h : raws.mapM (type.normalize Zone.utc) = .ok values) :
    members fields field (.value (.array raws)) =
      .ok (Text.commaJoin (values.map (type.literal true))) := by
  have hitems : raws.mapM (fields.literal field) = .ok (values.map (type.literal true)) := by
    rw [Outcome.mapM_eq_ok, List.forall₂_map_right_iff]
    exact (Outcome.mapM_eq_ok.mp h).imp fun raw v hv => FieldSet.literal_of_normalize hfield hv
  rw [members, hitems]
  rfl

/-- What holds of the literals for a field, and passes to lists of them, holds of what a membership
test lists. -/
theorem Operator.members_of_literals {P : String → Prop} {operand : Operand} {text : String}
    (hliteral : ∀ raw s, fields.literal field raw = .ok s → P s)
    (hlist : ∀ items, (∀ s ∈ items, P s) → P (Text.commaJoin items))
    (hk : operand.kind = .value ∨ operand.kind = .range)
    (h : members fields field operand = .ok text) : P text := by
  unfold members at h
  split at h
  next items =>
    obtain ⟨texts, htexts, h⟩ := Outcome.bind_eq_ok.mp h
    obtain rfl := Except.ok.inj h
    refine hlist texts fun s hs => ?_
    obtain ⟨item, -, hitem⟩ := Outcome.exists_of_mem_mapM htexts hs
    exact hliteral item s hitem
  next v _ => exact hliteral v text h
  next => simp [Operand.kind] at hk
  next => simp [Operand.kind] at hk
  next => cases h

namespace ColumnType

/-- The literal of an accepted value reads back as that value, up to the end of the literal and not
further, and the list of a membership test reads back as the normalized items. -/
theorem read_normalized_literals (type : ColumnType) (ht : type.floatFree = true) :
    (∀ raw v rest, type.normalize Zone.utc raw = .ok v → NoDigitAhead rest →
        type.read ((type.literal true v).toList ++ rest) = some (v.wholeSecond, rest)) ∧
      ∀ (fields : FieldSet) (field : String) (raws values : List Value),
        fields.get field = .ok type → raws.mapM (type.normalize Zone.utc) = .ok values →
        ∃ text, Operator.render fields field (.value (.array raws)) .membership =
            .ok (field ++ " IN (" ++ text ++ ")") ∧
          Text.readList '(' ')' type.read ("(" ++ text ++ ")").toList =
            some (values.map Value.wholeSecond, []) := by
  refine ⟨fun raw v rest h hrest => read_literal ht (admits_of_normalize h) hrest,
    fun fields field raws values hfield h => ?_⟩
  have hadmits : ∀ v ∈ values, type.Admits v := fun v hv => by
    obtain ⟨raw, -, hraw⟩ := Outcome.exists_of_mem_mapM h hv
    exact admits_of_normalize hraw
  refine ⟨Text.commaJoin (values.map (type.literal true)), ?_, ?_⟩
  · rw [Operator.render, Operator.members_array hfield h]
    rfl
  · have htext : ("(" ++ Text.commaJoin (values.map (type.literal true)) ++ ")").toList =
        '(' :: ((Text.commaJoin (values.map (type.literal true))).toList ++ [')']) := by
      simp
    rw [htext]
    exact Text.readList_commaJoin
      (fun v hv => literal_head_ne rfl (by decide) ht (hadmits v hv))
      (fun v hv rest hrest => read_literal ht (hadmits v hv) hrest)
      (Numeral.noDigitAhead_cons (by decide)) (Numeral.noDigitAhead_cons (by decide)) (by decide)

/-- Arrays of texts with quotes, backslashes, brackets and the spelling of null in them. -/
theorem read_normalized_literals_nested :
    let type : ColumnType := .array (.nullable .string)
    let fields := FieldSet.ofList "tagged" [("tags", type)]
    let raw := Value.array [.string "a\x27, \x27b\\", .string "\\N", .null, .string "]"]
    let v := Value.array [.string "a\x27, \x27b\\", .null, .null, .string "]"]
    type.floatFree = true ∧ type.normalize Zone.utc raw = .ok v ∧ NoDigitAhead ", 1".toList ∧
      type.read ((type.literal true v).toList ++ ", 1".toList) = some (v, ", 1".toList) ∧
      fields.get "tags" = .ok type ∧
      ∃ text, Operator.render fields "tags" (.value (.array [raw, raw])) .membership =
          .ok ("tags" ++ " IN (" ++ text ++ ")") ∧
        Text.readList '(' ')' type.read ("(" ++ text ++ ")").toList = some ([v, v], []) := by
  intro type fields raw v
  have ht : type.floatFree = true := rfl
  have hraw : type.normalize Zone.utc raw = .ok v := rfl
  have hrest : NoDigitAhead ", 1".toList := Numeral.noDigitAhead_cons (by decide) _
  have hfield : fields.get "tags" = .ok type := rfl
  have hraws : [raw, raw].mapM (type.normalize Zone.utc) = .ok [v, v] := rfl
  obtain ⟨hread, hmembers⟩ := read_normalized_literals type ht
  exact ⟨ht, hraw, hrest, hread raw v ", 1".toList hraw hrest, hfield,
    hmembers fields "tags" [raw, raw] [v, v] hfield hraws⟩

end ColumnType

end SelectBuilder
