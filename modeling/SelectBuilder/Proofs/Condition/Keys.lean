import SelectBuilder.Condition.Basic
import SelectBuilder.Proofs.Text.Marks

/-! Lookup keys. A key is cut at its last separator, which may overlap with one in front of it, if
the text behind the cut names an operator; else the whole key is a field. -/
namespace SelectBuilder.Condition

variable {registry : Registry} {key : String} {operator : Operator}

theorem ofKey_of_suffix {field name : List Char}
    (hcut : Text.cutLast? separator.toList key.toList = some (field, name))
    (hname : registry.resolve? (String.ofList name) = some operator) (operand : Operand) :
    ofKey registry key operand = ⟨String.ofList field, String.ofList name, operator, operand⟩ := by
  simp [ofKey, splitKey, hcut, hname]

theorem ofKey_of_plain (hname : ∀ field name,
    Text.cutLast? separator.toList key.toList = some (field, name) →
    registry.resolve? (String.ofList name) = none) (operand : Operand) :
    ofKey registry key operand = ⟨key, "eq", registry.default, operand⟩ := by
  cases hcut : Text.cutLast? separator.toList key.toList with
  | none => simp [ofKey, splitKey, hcut]
  | some cut => simp [ofKey, splitKey, hcut, hname cut.1 cut.2 hcut]

/-- Behind the last separator, no separator stands, nor an underscore that would make one with
it. -/
theorem cutLast?_separator_iff {field name : List Char} :
    Text.cutLast? separator.toList key.toList = some (field, name) ↔
      key = String.ofList field ++ separator ++ String.ofList name ∧ ¬ separator.toList <:+: name ∧
        name.head? ≠ some '_' := by
  have hkey : key = String.ofList field ++ separator ++ String.ofList name ↔
      key.toList = field ++ (separator.toList ++ name) := by
    rw [← String.toList_inj]
    simp
  rw [Text.cutLast?_eq_some_iff, hkey]
  exact Text.cutsLast_pair_iff

/-- A key made of a field, the separator and the name of an operator that has no separator and no
leading underscore gives back both, whatever the field is. Every other key either is such a key for
an operator that is registered, or is a field as a whole, compared by `eq`, and what stands behind
its last separator names no operator. -/
theorem ofKey_cuts_at_last_separator (registry : Registry) (operand : Operand) :
    (∀ field name operator, ¬ separator.toList <:+: name.toList → name.toList.head? ≠ some '_' →
      registry.resolve? name = some operator →
      ofKey registry (field ++ separator ++ name) operand = ⟨field, name, operator, operand⟩) ∧
    ∀ key, ∃ c, ofKey registry key operand = c ∧ c.operand = operand ∧
      ((key = c.field ++ separator ++ c.operatorName ∧
        ¬ separator.toList <:+: c.operatorName.toList ∧
          registry.resolve? c.operatorName = some c.operator) ∨
        (c.field = key ∧ c.operatorName = "eq" ∧ c.operator = registry.default ∧
          ∀ before after, Text.CutsLast separator.toList key.toList before after →
            registry.resolve? (String.ofList after) = none)) := by
  constructor
  case left =>
    intro field name operator hseparator hhead hname
    have hcut : Text.cutLast? separator.toList (field ++ separator ++ name).toList =
        some (field.toList, name.toList) :=
      cutLast?_separator_iff.mpr ⟨by simp, hseparator, hhead⟩
    have hresolved : registry.resolve? (String.ofList name.toList) = some operator := by
      rwa [String.ofList_toList]
    rw [ofKey_of_suffix hcut hresolved, String.ofList_toList, String.ofList_toList]
  case right =>
    intro key
    by_cases h : ∃ field name operator,
      Text.cutLast? separator.toList key.toList = some (field, name) ∧
        registry.resolve? (String.ofList name) = some operator
    · obtain ⟨field, name, operator, hcut, hname⟩ := h
      obtain ⟨hkey, hseparator, -⟩ := cutLast?_separator_iff.mp hcut
      rw [← String.toList_ofList (l := name)] at hseparator
      exact ⟨_, ofKey_of_suffix hcut hname operand, rfl, .inl ⟨hkey, hseparator, hname⟩⟩
    · have hplain : ∀ field name, Text.cutLast? separator.toList key.toList = some (field, name) →
          registry.resolve? (String.ofList name) = none := by
        intro field name hcut
        refine Option.eq_none_iff_forall_ne_some.mpr fun operator hname => ?_
        exact h ⟨field, name, operator, hcut, hname⟩
      refine ⟨_, ofKey_of_plain hplain operand, rfl,
        .inr ⟨rfl, rfl, rfl, fun before after hlast => ?_⟩⟩
      exact hplain before after (Text.cutLast?_eq_some_iff.mpr hlast)

/-- A field with separators in it and an underscore at its end, under an operator of the application
with an empty name. -/
theorem ofKey_cuts_at_last_separator_underscores :
    let registry := Registry.builtin.register "" .membership
    let operand := Operand.value .null
    (¬ separator.toList <:+: "gt".toList ∧ "gt".toList.head? ≠ some '_' ∧
      registry.resolve? "gt" = some (.comparison ">" none) ∧
      ofKey registry "a__b___gt" operand = ⟨"a__b_", "gt", .comparison ">" none, operand⟩) ∧
    ¬ separator.toList <:+: "".toList ∧ "".toList.head? ≠ some '_' ∧
      registry.resolve? "" = some .membership ∧
      ofKey registry "a__gt___" operand = ⟨"a__gt_", "", .membership, operand⟩ := by
  intro registry operand
  have hcuts := (ofKey_cuts_at_last_separator registry operand).1
  have hgt : ¬ separator.toList <:+: "gt".toList := by decide
  have hnone : ¬ separator.toList <:+: "".toList := by decide
  exact ⟨⟨hgt, by decide, rfl, hcuts "a__b_" "gt" _ hgt (by decide) rfl⟩,
    hnone, by decide, rfl, hcuts "a__gt_" "" _ hnone (by decide) rfl⟩

end SelectBuilder.Condition
