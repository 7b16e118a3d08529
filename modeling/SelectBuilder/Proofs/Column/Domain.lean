import SelectBuilder.Column.Normalize
import SelectBuilder.Proofs.Outcome

/-! The values of a column. Whatever a caller passes, what normalization gives is one of them. -/
namespace SelectBuilder

inductive ColumnType.Admits : ColumnType → Value → Prop
  | string (s : String) : Admits .string (.string s)
  | fixedString {limit : Nat} {s : String} (size : s.utf8ByteSize ≤ limit)
      (unpadded : s.toList.getLast? ≠ some '\x00') : Admits (.fixedString limit) (.string s)
  | int {type : IntType} {n : Int} (least : type.least ≤ n) (greatest : n ≤ type.greatest) :
      Admits (.int type) (Column.number n)
  | float (type : FloatType) (x : Float) : Admits (.float type) (.float x)
  | bool (b : Bool) : Admits .bool (.bool b)
  | date (d : Date) : Admits .date (.date d)
  | dateTime (t : Instant) : Admits .dateTime (.dateTime t)
  | enumeration {type : EnumType} {variants : List (String × Int16)} {name : String}
      (declared : name ∈ variants.map (·.1)) : Admits (.enumeration type variants) (.string name)
  | null (inner : ColumnType) : Admits (.nullable inner) .null
  | nullable {inner : ColumnType} {v : Value} (h : Admits inner v) : Admits (.nullable inner) v
  | array {inner : ColumnType} {items : List Value} (h : ∀ item ∈ items, Admits inner item) :
      Admits (.array inner) (.array items)

namespace Column

theorem unpad_getLast? (s : String) : (unpad s).toList.getLast? ≠ some '\x00' := by
  rw [unpad, String.toList_ofList, Text.dropEndWhile, List.getLast?_reverse]
  intro h
  have hnot := List.head?_dropWhile_not (· == '\x00') s.toList.reverse
  rw [h] at hnot
  exact Bool.noConfusion hnot

theorem mem_of_variant? {variants : List (String × Int16)} {raw : Value} {variant : String × Int16}
    (h : variant? variants raw = some variant) : variant ∈ variants := by
  cases raw with
  | string _ | int _ | uint _ => exact List.mem_of_find?_eq_some h
  | _ => cases h

theorem checked_eq_ok {type : IntType} {n : Int} {v : Value} :
    checked type n = .ok v ↔ (type.least ≤ n ∧ n ≤ type.greatest) ∧ v = number n := by
  unfold checked
  split
  next h =>
    have hrange : ¬ (type.least ≤ n ∧ n ≤ type.greatest) := by
      simp only [Bool.or_eq_true, decide_eq_true_eq] at h
      omega
    simp [hrange]
  next h =>
    have hrange : type.least ≤ n ∧ n ≤ type.greatest := by
      simp only [Bool.or_eq_true, decide_eq_true_eq] at h
      omega
    rw [Except.ok.injEq]
    exact ⟨fun h => ⟨hrange, h.symm⟩, fun h => h.2.symm⟩

variable {zone : Zone} {raw v : Value}

theorem admits_of_string (h : string raw = .ok v) : ColumnType.string.Admits v := by
  cases raw with
  | string s =>
    obtain rfl := Except.ok.inj h
    exact .string s
  | _ => cases h

theorem admits_of_fixedString {limit : Nat} (h : fixedString limit raw = .ok v) :
    (ColumnType.fixedString limit).Admits v := by
  cases raw with
  | string s =>
    simp only [fixedString] at h
    split_ifs at h with hsize
    obtain rfl := Except.ok.inj h
    exact .fixedString (Nat.le_of_not_lt hsize) (unpad_getLast? s)
  | _ => cases h

theorem admits_of_int {type : IntType} (h : int type raw = .ok v) :
    (ColumnType.int type).Admits v := by
  obtain ⟨n, -, hn⟩ := Outcome.bind_eq_ok.mp h
  obtain ⟨⟨hl, hg⟩, rfl⟩ := checked_eq_ok.mp hn
  exact .int hl hg

theorem admits_of_float (type : FloatType) (h : float raw = .ok v) :
    (ColumnType.float type).Admits v := by
  cases raw with
  | float _ | int _ | uint _ =>
    obtain rfl := Except.ok.inj h
    exact .float type _
  | string s =>
    obtain ⟨d, -, rfl⟩ := Outcome.map_eq_ok.mp h
    exact .float type _
  | _ => cases h

theorem admits_of_bool (h : bool raw = .ok v) : ColumnType.bool.Admits v := by
  obtain ⟨b, -, rfl⟩ := Outcome.map_eq_ok.mp h
  exact .bool b

theorem admits_of_date (h : date zone raw = .ok v) : ColumnType.date.Admits v := by
  cases raw with
  | date d =>
    obtain rfl := Except.ok.inj h
    exact .date d
  | dateTime _ | int _ | uint _ =>
    obtain ⟨d, -, rfl⟩ := Outcome.map_eq_ok.mp h
    exact .date d
  | string s =>
    simp only [date] at h
    split_ifs at h
    · obtain rfl := Except.ok.inj h
      exact .date Date.epoch
    · obtain ⟨d, -, rfl⟩ := Outcome.map_eq_ok.mp h
      exact .date d
  | _ => cases h

theorem admits_of_dateTime (h : dateTime zone raw = .ok v) : ColumnType.dateTime.Admits v := by
  cases raw with
  | dateTime t =>
    obtain rfl := Except.ok.inj h
    exact .dateTime t
  | date d =>
    simp only [dateTime] at h
    split at h
    · obtain rfl := Except.ok.inj h
      exact .dateTime _
    · cases h
  | int _ | uint _ | string _ =>
    obtain ⟨t, -, rfl⟩ := Outcome.map_eq_ok.mp h
    exact .dateTime t
  | _ => cases h

theorem admits_of_enumeration {type : EnumType} {variants : List (String × Int16)}
    (h : enumeration type variants raw = .ok v) :
    (ColumnType.enumeration type variants).Admits v := by
  cases raw with
  | string _ | int _ | uint _ =>
    simp only [enumeration] at h
    split at h
    next name number hv =>
      obtain rfl := Except.ok.inj h
      exact .enumeration (List.mem_map_of_mem (mem_of_variant? hv))
    next => cases h
  | _ => cases h

end Column

theorem ColumnType.admits_of_normalize {zone : Zone} {type : ColumnType} {raw v : Value}
    (h : type.normalize zone raw = .ok v) : type.Admits v := by
  induction type generalizing raw v with
  | string => exact Column.admits_of_string h
  | fixedString limit => exact Column.admits_of_fixedString h
  | int type => exact Column.admits_of_int h
  | float type => exact Column.admits_of_float type h
  | bool => exact Column.admits_of_bool h
  | date => exact Column.admits_of_date h
  | dateTime => exact Column.admits_of_dateTime h
  | enumeration type variants => exact Column.admits_of_enumeration h
  | nullable inner ih =>
    rw [normalize] at h
    split_ifs at h
    · obtain rfl := Except.ok.inj h
      exact .null inner
    · exact .nullable (ih h)
  | array inner ih =>
    cases raw with
    | array items =>
      obtain ⟨values, hvalues, rfl⟩ := Outcome.map_eq_ok.mp h
      refine .array fun v hv => ?_
      obtain ⟨item, -, hitem⟩ := Outcome.exists_of_mem_mapM hvalues hv
      exact ih hitem
    | _ => cases h

end SelectBuilder
