import SelectBuilder.Column.Literal
import SelectBuilder.Proofs.Number.Characters

/-! The forms of a literal. A literal is null, a bare text, a quoted text or a list of literals,
whatever the type of the column, so that a property of literals is shown once for each form. -/
namespace SelectBuilder

namespace Value

/-- A truth value or a number, which no quotes stand around. -/
def isBare : Value → Bool
  | .bool _ | .int _ | .uint _ | .float _ => true
  | _ => false

/-- A text, or what is written as one. -/
def isText : Value → Bool
  | .string _ | .date _ | .dateTime _ => true
  | _ => false

theorem bare_literal {v : Value} (h : v.isBare = true) :
    Text.bare (v.literal true).toList = true := by
  cases v with
  | bool b => cases b <;> rfl
  | int n => exact Numeral.bare_int n.toInt
  | uint n => exact Numeral.bare_nat n.toNat
  | float x => exact FloatStyle.bare_literal x
  | _ => cases h

theorem literals_eq_map (items : List Value) : literals items = items.map (literal true) := by
  induction items with
  | nil => rfl
  | cons item rest ih => rw [literals, ih, List.map_cons]

end Value

/-- A property of values and their literals that holds of each form. -/
structure LiteralProperty (P : Value → String → Prop) : Prop where
  null : P .null Value.nullLiteral
  bare : ∀ v text, v.isBare = true → Text.bare text.toList = true → P v text
  quoted : ∀ v s, v.isText = true → P v (Text.quote s)
  list : ∀ items (text : Value → String), (∀ item ∈ items, P item (text item)) →
    P (.array items) ("[" ++ Text.commaJoin (items.map text) ++ "]")

namespace LiteralProperty

variable {P : Value → String → Prop}

mutual

theorem value (h : LiteralProperty P) : ∀ v : Value, P v (v.literal true)
  | .null => h.null
  | .bool b => h.bare _ _ rfl (Value.bare_literal rfl)
  | .int n => h.bare _ _ rfl (Value.bare_literal rfl)
  | .uint n => h.bare _ _ rfl (Value.bare_literal rfl)
  | .float x => h.bare _ _ rfl (Value.bare_literal rfl)
  | .string s => h.quoted _ s rfl
  | .date d => h.quoted _ d.text rfl
  | .dateTime t => h.quoted _ t.text rfl
  | .array items => by
    rw [Value.literal, Value.literals_eq_map]
    exact h.list items (Value.literal true) (h.values items)

theorem values (h : LiteralProperty P) : ∀ items : List Value, ∀ v ∈ items, P v (v.literal true)
  | [] => by simp
  | item :: rest => List.forall_mem_cons.mpr ⟨h.value item, h.values rest⟩

end

theorem column (h : LiteralProperty P) (type : ColumnType) (v : Value) :
    P v (type.literal true v) := by
  induction type generalizing v with
  | dateTime =>
    cases v with
    | dateTime t => exact h.quoted _ t.timestampText rfl
    | _ => exact h.value _
  | nullable inner ih =>
    cases v with
    | null => exact h.null
    | _ => exact ih _
  | array inner ih =>
    cases v with
    | array items => exact h.list items _ fun item _ => ih item
    | _ => exact h.value _
  | _ => cases v <;> exact h.value _

end LiteralProperty

namespace ColumnType

theorem literal_string (type : ColumnType) (quoted : Bool) (s : String) :
    type.literal quoted (.string s) = Text.stringLiteral quoted s := by
  induction type with
  | nullable inner ih => exact ih
  | _ => rfl

/-- Without its quotes, the literal of a text is the escaped text. -/
theorem literal_unquoted (type : ColumnType) {v : Value} (h : v.isText = true) :
    ∃ s, type.literal false v = Text.escape s := by
  induction type with
  | nullable inner ih =>
    cases v with
    | null => cases h
    | _ => exact ih
  | dateTime =>
    cases v with
    | string s => exact ⟨s, rfl⟩
    | date d => exact ⟨d.text, rfl⟩
    | dateTime t => exact ⟨t.timestampText, rfl⟩
    | _ => cases h
  | _ =>
    cases v with
    | string s => exact ⟨s, rfl⟩
    | date d => exact ⟨d.text, rfl⟩
    | dateTime t => exact ⟨t.text, rfl⟩
    | _ => cases h

/-- The other literals have no quotes of their own, and the texts in a list keep theirs. -/
theorem literal_unquoted_eq (type : ColumnType) {v : Value} (h : v.isText = false) :
    type.literal false v = type.literal true v := by
  induction type with
  | nullable inner ih =>
    cases v with
    | null => rfl
    | _ => exact ih
  | _ =>
    cases v with
    | string _ | date _ | dateTime _ => cases h
    | _ => rfl

end ColumnType

end SelectBuilder
