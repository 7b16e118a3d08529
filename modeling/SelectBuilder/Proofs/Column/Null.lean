import SelectBuilder.Proofs.Column.Domain
import SelectBuilder.Proofs.Column.Forms

/-! Null in columns. Only a nullable column makes null of anything, and only of null and of the text
of its literal; and only null has that literal. -/
namespace SelectBuilder

/-- The value as it was, or the text of the literal of null in place of null. -/
def Value.Respelled (v w : Value) : Prop :=
  w = v ∨ v = .null ∧ w = .string nullLiteral

namespace Column

variable {zone : Zone} {raw v : Value}

theorem isNullSpelling_iff :
    isNullSpelling raw = true ↔ raw = .null ∨ raw = .string Value.nullLiteral := by
  cases raw <;> simp [isNullSpelling]

theorem number_ne_null (n : Int) : number n ≠ .null := by
  unfold number
  split <;> exact nofun

end Column

namespace ColumnType

open Column (isNullSpelling)

variable {zone : Zone} {type : ColumnType} {raw v : Value}

theorem Admits.ne_null (h : type.Admits v) (htype : ∀ inner, type ≠ .nullable inner) :
    v ≠ .null := by
  cases h with
  | int => exact Column.number_ne_null _
  | null inner => exact absurd rfl (htype inner)
  | @nullable inner => exact absurd rfl (htype inner)
  | _ => exact nofun

theorem normalize_nullable_of_isNullSpelling (inner : ColumnType) (h : isNullSpelling raw = true) :
    (nullable inner).normalize zone raw = .ok .null :=
  if_pos h

theorem normalize_ne_null (htype : ∀ inner, type ≠ .nullable inner) :
    type.normalize zone raw ≠ .ok .null :=
  fun h => (admits_of_normalize h).ne_null htype rfl

theorem normalize_eq_null_iff :
    type.normalize zone raw = .ok .null ↔
      (∃ inner, type = .nullable inner) ∧ isNullSpelling raw = true := by
  induction type with
  | nullable inner ih =>
    rw [normalize]
    split_ifs with h
    · exact iff_of_true rfl ⟨⟨inner, rfl⟩, h⟩
    · exact iff_of_false (fun hnull => h (ih.mp hnull).2) (fun hnull => h hnull.2)
  | _ => refine iff_of_false (normalize_ne_null ?_) ?_ <;> simp

/-- Only null has the literal of null: every other literal starts with a quote or a bracket, or is
bare. -/
theorem nullLiteral.literalProperty :
    LiteralProperty fun v s => s = Value.nullLiteral → v = .null where
  null _ := rfl
  bare v s _ hs h := by
    subst h
    exact absurd hs (by decide)
  quoted v s _ h := by
    have htext := congrArg String.toList h
    rw [Text.toList_quote] at htext
    exact absurd (List.cons.inj htext).1 (by decide)
  list items text _ h := by
    have htext := congrArg String.toList h
    rw [String.toList_append, String.toList_append] at htext
    exact absurd (List.cons.inj htext).1 (by decide)

theorem literal_null_eq (type : ColumnType) (quoted : Bool) :
    type.literal quoted .null = Value.nullLiteral := by
  cases type <;> rfl

theorem literal_eq_nullLiteral_iff : type.literal true v = Value.nullLiteral ↔ v = .null := by
  refine ⟨nullLiteral.literalProperty.column type v, ?_⟩
  rintro rfl
  exact type.literal_null_eq true

/-- In a column that is not nullable, the text of the literal of null is a text like any other. -/
theorem normalize_nullLiteral (htype : ∀ inner, type ≠ .nullable inner)
    (h : type.normalize zone (.string Value.nullLiteral) = .ok v) :
    v = .string Value.nullLiteral := by
  cases type with
  | string => exact (Except.ok.inj h).symm
  | fixedString limit =>
    have hunpad : Column.unpad Value.nullLiteral = Value.nullLiteral := by decide
    simp only [normalize, Column.fixedString, hunpad] at h
    split at h
    next => cases h
    next => exact (Except.ok.inj h).symm
  | enumeration kind variants =>
    simp only [normalize, Column.enumeration] at h
    split at h
    next name number hvariant =>
      obtain rfl := Except.ok.inj h
      have hname := List.find?_some hvariant
      exact congrArg Value.string (of_decide_eq_true hname)
    next => cases h
  | float kind =>
    have hread : Decimal.ofString? (Text.trim Value.nullLiteral) = none := by decide +kernel
    simp [normalize, Column.float, Column.expect, hread, Except.map] at h
  | bool =>
    have hword : Text.lowerAscii (Text.trim Value.nullLiteral) = "\\n" := by decide +kernel
    simp [normalize, Column.bool, Column.expect, hword, Except.map] at h
  | nullable inner => exact absurd rfl (htype inner)
  | _ => cases h

end ColumnType

end SelectBuilder
