import SelectBuilder.Proofs.Column.Domain
import SelectBuilder.Proofs.Column.Forms
import SelectBuilder.Proofs.Text.Closing

/-! Literals inside a larger literal. Without its own quotes the literal of a value can stand
between those of a pattern, unless the value is an array with a text in it: the texts of an array
keep their quotes. -/
namespace SelectBuilder

open Text (LiteralBody ExposesQuote)

namespace Value

mutual

/-- A text, or an array with one in it at any depth. -/
def holdsText : Value → Bool
  | .array items => anyHoldsText items
  | v => v.isText

def anyHoldsText : List Value → Bool
  | [] => false
  | item :: rest => holdsText item || anyHoldsText rest

end

/-- An array with a text in it at any depth. -/
def listsText : Value → Bool
  | .array items => anyHoldsText items
  | _ => false

theorem anyHoldsText_eq_any (items : List Value) : anyHoldsText items = items.any holdsText := by
  induction items with
  | nil => rfl
  | cons item rest ih => rw [anyHoldsText, ih, List.any_cons]

theorem holdsText_of_isText {v : Value} (h : v.isText = true) : v.holdsText = true := by
  cases v with
  | string _ | date _ | dateTime _ => rfl
  | _ => cases h

theorem holdsText_of_isBare {v : Value} (h : v.isBare = true) : v.holdsText = false := by
  cases v with
  | bool _ | int _ | uint _ | float _ => rfl
  | _ => cases h

theorem holdsText_eq_listsText {v : Value} (h : v.isText = false) : v.holdsText = v.listsText := by
  cases v with
  | array items => rfl
  | _ => exact h

theorem isText_of_listsText {v : Value} (h : v.listsText = true) : v.isText = false := by
  cases v with
  | array items => rfl
  | _ => cases h

end Value

theorem Text.toList_bracketed (items : List String) :
    ("[" ++ commaJoin items ++ "]").toList =
      ['['] ++ (", ".toList.intercalate (items.map String.toList) ++ [']']) := by
  simp [commaJoin, String.toList_intercalate]

/-- A literal shows a quote exactly if its value holds a text. Every other literal can stand in a
larger one. -/
theorem Text.ExposesQuote.literalProperty : LiteralProperty fun v s =>
    if v.holdsText then ExposesQuote s.toList else LiteralBody s.toList where
  null := .pair 'N' .nil
  bare v s hv hs := by
    rw [if_neg (by rw [Value.holdsText_of_isBare hv]; decide)]
    exact .of_bare hs
  quoted v s hv := by
    rw [if_pos (Value.holdsText_of_isText hv)]
    exact .quote s
  list items text h := by
    have hcomma : LiteralBody ", ".toList := .of_notMem (by decide) (by decide)
    have hopen : LiteralBody ['['] := .of_notMem (by decide) (by decide)
    have hclose : LiteralBody [']'] := .of_notMem (by decide) (by decide)
    rw [toList_bracketed, List.map_map, Value.holdsText, Value.anyHoldsText_eq_any]
    split_ifs with hany
    · obtain ⟨item, hitem, htext⟩ := List.any_eq_true.mp hany
      have hitems : ∀ s ∈ items.map (String.toList ∘ text), LiteralBody s ∨ ExposesQuote s := by
        refine List.forall_mem_map.mpr fun item hitem => ?_
        have hforms := h item hitem
        split_ifs at hforms
        · exact .inr hforms
        · exact .inl hforms
      have hexposed := h item hitem
      rw [if_pos htext] at hexposed
      exact .behind hopen
        ((intercalate hcomma hitems ⟨_, List.mem_map_of_mem hitem, hexposed⟩).append _)
    · have hitems : ∀ s ∈ items.map (String.toList ∘ text), LiteralBody s := by
        refine List.forall_mem_map.mpr fun item hitem => ?_
        have hbody := h item hitem
        rwa [if_neg fun htext => hany (List.any_eq_true.mpr ⟨item, hitem, htext⟩)] at hbody
      exact hopen.append ((LiteralBody.intercalate hcomma hitems).append hclose)

namespace ColumnType

theorem literalBody_unquoted (type : ColumnType) {v : Value} (h : v.listsText = false) :
    LiteralBody (type.literal false v).toList := by
  cases hv : v.isText with
  | true =>
    obtain ⟨s, hs⟩ := type.literal_unquoted hv
    rw [hs]
    exact .escape s
  | false =>
    have hform := ExposesQuote.literalProperty.column type v
    rw [Value.holdsText_eq_listsText hv, if_neg (by rw [h]; decide)] at hform
    rwa [type.literal_unquoted_eq hv]

theorem exposesQuote_unquoted (type : ColumnType) {v : Value} (h : v.listsText = true) :
    ExposesQuote (type.literal false v).toList := by
  have hv := Value.isText_of_listsText h
  have hform := ExposesQuote.literalProperty.column type v
  rw [Value.holdsText_eq_listsText hv, if_pos h] at hform
  rwa [type.literal_unquoted_eq hv]

/-- Columns whose literals are texts. -/
def isText : ColumnType → Bool
  | .string | .fixedString _ | .enumeration .. => true
  | .nullable inner => inner.isText
  | _ => false

theorem literal_of_isText {type : ColumnType} (ht : type.isText = true) (s : String) :
    type.literal false (.string s) = Text.escape s := by
  induction type with
  | string | fixedString | enumeration => rfl
  | nullable inner ih => exact ih ht
  | _ => cases ht

theorem Admits.listsText_of_isText {type : ColumnType} {v : Value} (h : type.Admits v)
    (ht : type.isText = true) : v.listsText = false := by
  induction h with
  | nullable _ ih => exact ih ht
  | array | int => cases ht
  | _ => rfl

theorem literalBody_of_normalize {zone : Zone} {type : ColumnType} (ht : type.isText = true)
    {raw v : Value} (h : type.normalize zone raw = .ok v) :
    LiteralBody (type.literal false v).toList :=
  type.literalBody_unquoted ((admits_of_normalize h).listsText_of_isText ht)

end ColumnType

end SelectBuilder
