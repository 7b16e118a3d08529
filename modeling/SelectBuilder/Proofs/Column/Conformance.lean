import SelectBuilder.Proofs.Column.Integer
import SelectBuilder.Proofs.Column.Null

/-! What normalization gives conforms to the column. The values that a column can hold are decided,
the arrays keep their lengths at every depth, and an array is refused for its first refused item. -/
namespace SelectBuilder

open Outcome (failure? FirstFails)

namespace Value

mutual

/-- The arrays of a value at every depth, with null in place of each scalar. -/
def shape : Value → Value
  | .array items => .array (shapes items)
  | _ => .null

def shapes : List Value → List Value
  | [] => []
  | item :: rest => shape item :: shapes rest

end

theorem shapes_eq_map (items : List Value) : shapes items = items.map shape := by
  induction items with
  | nil => rfl
  | cons item rest ih => rw [shapes, ih, List.map_cons]

end Value

namespace ColumnType

def admits : ColumnType → Value → Bool
  | .string, .string _ => true
  | .fixedString limit, .string s => s.utf8ByteSize ≤ limit && s.toList.getLast? != some '\x00'
  | .int type, .int n => type.Holds n.toInt
  | .int type, .uint n => 2 ^ 63 ≤ n.toNat && type.Holds n.toNat
  | .float _, .float _ => true
  | .bool, .bool _ => true
  | .date, .date _ => true
  | .dateTime, .dateTime _ => true
  | .enumeration _ variants, .string name => variants.any (·.1 == name)
  | .nullable _, .null => true
  | .nullable inner, v => inner.admits v
  | .array inner, .array items => items.all inner.admits
  | _, _ => false

variable {zone : Zone} {type inner : ColumnType} {raw v : Value} {items : List Value}

theorem admits_int_iff {type : IntType} :
    (int type).Admits v ↔ ∃ n, v.IsNumber n ∧ type.Holds n := by
  constructor
  · rintro ⟨⟩
    next n least greatest =>
      have hholds : type.Holds n := ⟨least, greatest⟩
      obtain ⟨hleast, hgreatest⟩ := hholds.bounds
      exact ⟨n, Column.isNumber_number hleast hgreatest, hholds⟩
  · rintro ⟨n, hnumber, least, greatest⟩
    rw [Column.eq_number_of_isNumber hnumber]
    exact .int least greatest

theorem admits_int_of_isNumber {type : IntType} {n : Int} (hnumber : v.IsNumber n)
    (hholds : type.Holds n) :
    (int type).admits v = true := by
  cases hnumber with
  | int value =>
    subst value
    exact decide_eq_true hholds
  | uint value large =>
    subst value
    rw [admits, Bool.and_eq_true]
    exact ⟨decide_eq_true (by omega), decide_eq_true hholds⟩

theorem admits_of_eq_true (h : type.admits v = true) : type.Admits v := by
  induction type generalizing v with
  | string =>
    cases v with
    | string s => exact .string s
    | _ => cases h
  | fixedString limit =>
    cases v with
    | string s =>
      rw [admits, Bool.and_eq_true] at h
      exact .fixedString (of_decide_eq_true h.1) (bne_iff_ne.mp h.2)
    | _ => cases h
  | int type =>
    cases v with
    | int n => exact admits_int_iff.mpr ⟨n.toInt, .int rfl, of_decide_eq_true h⟩
    | uint n =>
      rw [admits, Bool.and_eq_true] at h
      have hlarge : 2 ^ 63 ≤ n.toNat := of_decide_eq_true h.1
      exact admits_int_iff.mpr ⟨n.toNat, .uint rfl (by omega), of_decide_eq_true h.2⟩
    | _ => cases h
  | float type =>
    cases v with
    | float x => exact .float type x
    | _ => cases h
  | bool =>
    cases v with
    | bool b => exact .bool b
    | _ => cases h
  | date =>
    cases v with
    | date d => exact .date d
    | _ => cases h
  | dateTime =>
    cases v with
    | dateTime t => exact .dateTime t
    | _ => cases h
  | enumeration type variants =>
    cases v with
    | string name =>
      obtain ⟨variant, hvariant, hname⟩ := List.any_eq_true.mp h
      exact .enumeration (List.mem_map.mpr ⟨variant, hvariant, eq_of_beq hname⟩)
    | _ => cases h
  | nullable inner ih =>
    cases v with
    | null => exact .null inner
    | _ => exact .nullable (ih h)
  | array inner ih =>
    cases v with
    | array items => exact .array fun item hitem => ih (List.all_eq_true.mp h item hitem)
    | _ => cases h

theorem admits_iff : type.admits v = true ↔ type.Admits v := by
  refine ⟨admits_of_eq_true, fun h => ?_⟩
  induction h with
  | fixedString size unpadded =>
    rw [admits, Bool.and_eq_true]
    exact ⟨decide_eq_true size, bne_iff_ne.mpr unpadded⟩
  | int least greatest =>
    obtain ⟨n, hnumber, hholds⟩ := admits_int_iff.mp (.int least greatest)
    exact admits_int_of_isNumber hnumber hholds
  | @enumeration type variants name declared =>
    obtain ⟨variant, hvariant, hname⟩ := List.mem_map.mp declared
    exact List.any_eq_true.mpr ⟨variant, hvariant, beq_iff_eq.mpr hname⟩
  | @nullable inner v _ ih =>
    cases v with
    | null => rfl
    | _ => exact ih
  | array _ ih => exact List.all_eq_true.mpr ih
  | _ => rfl

instance (type : ColumnType) (v : Value) : Decidable (type.Admits v) :=
  decidable_of_iff _ admits_iff

example : ¬ (array (nullable (int .uint8))).Admits (.array [.int 255, .null, .int 256]) := by decide

def itemType? : ColumnType → Option ColumnType
  | .array inner => some inner
  | .nullable inner => inner.itemType?
  | _ => none

theorem normalize_array (h : type.itemType? = some inner) (items : List Value) :
    type.normalize zone (.array items) = (items.mapM (inner.normalize zone)).map .array := by
  induction type with
  | array =>
    exact congrArg (fun t => (items.mapM (normalize zone t)).map Value.array) (Option.some.inj h)
  | nullable _ ih => exact ih h
  | _ => cases h

/-- What is no column of arrays takes no array and holds none. -/
theorem normalize_array_of_scalar (h : type.itemType? = none) (items : List Value) :
    (type.normalize zone (.array items)).isOk = false := by
  induction type with
  | array => cases h
  | nullable _ ih => exact ih h
  | _ => rfl

theorem Admits.shape_eq_null (h : type.Admits v) (hscalar : type.itemType? = none) :
    v.shape = .null := by
  induction h with
  | @int type n =>
    unfold Column.number
    split <;> rfl
  | nullable _ ih => exact ih hscalar
  | array => cases hscalar
  | _ => rfl

theorem shape_of_normalize_scalar (hscalar : type.itemType? = none)
    (h : type.normalize zone raw = .ok v) :
    v.shape = raw.shape := by
  have hshape := (admits_of_normalize h).shape_eq_null hscalar
  cases raw with
  | array items =>
    have hrefused : (type.normalize zone (.array items)).isOk = false :=
      normalize_array_of_scalar hscalar items
    rw [h] at hrefused
    cases hrefused
  | _ => exact hshape

/-- Normalization keeps the lengths of arrays, at every depth. -/
theorem shape_of_normalize (h : type.normalize zone raw = .ok v) : v.shape = raw.shape := by
  induction type generalizing raw v with
  | nullable inner ih =>
    rw [normalize] at h
    split_ifs at h with hnull
    · obtain rfl := Except.ok.inj h
      rcases Column.isNullSpelling_iff.mp hnull with rfl | rfl <;> rfl
    · exact ih h
  | array inner ih =>
    cases raw with
    | array items =>
      obtain ⟨values, hvalues, rfl⟩ := Outcome.map_eq_ok.mp h
      have hpairs :=
        Outcome.forall₂_map_of_mapM_eq_ok (R := fun v s => v.shape = s) (g := Value.shape) hvalues
        fun item _ value hvalue => ih hvalue
      have hitems : values.map Value.shape = items.map Value.shape := by
        rwa [← List.forall₂_map_left_iff, List.forall₂_eq_eq_eq] at hpairs
      rw [Value.shape, Value.shape, Value.shapes_eq_map, Value.shapes_eq_map, hitems]
    | _ => cases h
  | _ => exact shape_of_normalize_scalar rfl h

/-- What normalization gives is a value that the column can hold, with as many items as the raw
value wherever that has some. An array is refused exactly if an item of it is, with the reason for
the first one. -/
theorem normalize_conforms (zone : Zone) (type : ColumnType) :
    (∀ raw v, type.normalize zone raw = .ok v → type.Admits v ∧ v.shape = raw.shape) ∧
      ∀ inner, type.itemType? = some inner → ∀ items reason,
        type.normalize zone (.array items) = .error reason ↔
          FirstFails (inner.normalize zone) items reason := by
  refine ⟨fun raw v h => ⟨admits_of_normalize h, shape_of_normalize h⟩,
    fun inner htype items reason => ?_⟩
  rw [normalize_array htype, ← Outcome.failure?_eq_some, Outcome.failure?_map,
    Outcome.failure?_mapM fun item _ => rfl, Outcome.findSome?_eq_some_iff_firstFails]

/-- Arrays in an array, one of them null and one empty, and an array with two refused items. -/
theorem normalize_conforms_nested :
    let inner := ColumnType.nullable (.array (.fixedString 3))
    let type := ColumnType.array inner
    let raw := Value.array [.array [.string "ab\x00", .string ""], .string "\\N", .array []]
    let v := Value.array [.array [.string "ab", .string ""], .null, .array []]
    let items := [Value.null, .array [.string "ab", .int 5, .string "abcd"], .bool true]
    (type.normalize Zone.utc raw = .ok v ∧ type.Admits v ∧ v.shape = raw.shape) ∧
      type.itemType? = some inner ∧
      type.normalize Zone.utc (.array items) = .error (.unexpected "string" (.int 5)) ∧
      FirstFails (inner.normalize Zone.utc) items (.unexpected "string" (.int 5)) := by
  intro inner type raw v items
  have hv : type.normalize Zone.utc raw = .ok v := by rfl
  have hrefused : type.normalize Zone.utc (.array items) =
      .error (.unexpected "string" (.int 5)) := by rfl
  obtain ⟨haccepted, hfirst⟩ := normalize_conforms Zone.utc type
  exact ⟨⟨hv, haccepted raw v hv⟩, rfl, hrefused, (hfirst inner rfl items _).mp hrefused⟩

end ColumnType

end SelectBuilder
