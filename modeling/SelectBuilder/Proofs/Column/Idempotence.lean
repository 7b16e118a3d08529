import SelectBuilder.Proofs.Column.Conformance
import SelectBuilder.Proofs.Column.Variants

/-! Normalizing what is normalized. A column takes the values that it can hold as they are, but for
one text: where null may stand, the text of the literal of null becomes null, also if an inner
column has just made it of another value. -/
namespace SelectBuilder

theorem Value.string?_eq_some_iff {v : Value} {s : String} :
    v.string? = some s ↔ v = .string s := by
  cases v <;> simp [string?]

namespace Column

variable {type : IntType} {v : Value} {n : Int}

theorem unpad_eq_self {s : String} (h : s.toList.getLast? ≠ some '\x00') : unpad s = s := by
  have hchars : Text.dropEndWhile (· == '\x00') s.toList = s.toList := by
    rw [Text.dropEndWhile_eq_rdropWhile, List.rdropWhile_eq_self_iff]
    intro hs hlast
    rw [List.getLast?_eq_some_getLast hs, eq_of_beq hlast] at h
    exact h rfl
  rw [unpad, hchars, String.ofList_toList]

theorem isNullSpelling_eq_or (v : Value) :
    isNullSpelling v = (v.isNull || v.string? == some Value.nullLiteral) := by
  cases v with
  | string s => simp [isNullSpelling, Value.isNull, Value.string?, beq_eq_decide]
  | _ => rfl

theorem spells_of_isNumber (h : v.IsNumber n) : Spells v n := by
  cases h with
  | int value => exact value ▸ .int _
  | uint value => exact value ▸ .uint _

theorem int_of_isNumber (h : v.IsNumber n) (hholds : type.Holds n) : int type v = .ok v := by
  obtain ⟨hleast, hgreatest⟩ := hholds.bounds
  rw [int_of_spells type (spells_of_isNumber h), if_pos (fits_of_bounds hleast hgreatest)]
  exact checked_eq_ok.mpr ⟨hholds, eq_number_of_isNumber h⟩

theorem enumeration_of_declared (type : EnumType) {variants : List (String × Int16)} {name : String}
    (h : name ∈ variants.map Prod.fst) :
    enumeration type variants (.string name) = .ok (.string name) := by
  obtain ⟨variant, hvariant, hname⟩ := List.mem_map.mp h
  have hfound : (variants.find? (·.1 = name)).isSome = true :=
    List.find?_isSome.mpr ⟨variant, hvariant, decide_eq_true hname⟩
  obtain ⟨found, hfind⟩ := Option.isSome_iff_exists.mp hfound
  have hfirst : found.1 = name := by simpa using List.find?_some hfind
  simp only [enumeration, variant?, hfind, hfirst]

theorem fixedString_eq_nullLiteral_iff {limit : Nat} :
    (∃ raw, isNullSpelling raw = false ∧ fixedString limit raw = .ok (.string Value.nullLiteral)) ↔
      2 ≤ limit := by
  constructor
  · rintro ⟨raw, -, h⟩
    cases admits_of_fixedString h with
    | fixedString size => exact size
  · intro hlimit
    have hunpad : unpad "\\N\x00" = Value.nullLiteral := rfl
    have hsize : ¬ limit < Value.nullLiteral.utf8ByteSize := Nat.not_lt.mpr hlimit
    refine ⟨.string "\\N\x00", rfl, ?_⟩
    rw [fixedString, hunpad, if_neg hsize]

theorem eq_of_enumeration_string {type : EnumType} {variants : List (String × Int16)}
    {s name : String} (h : enumeration type variants (.string s) = .ok (.string name)) :
    s = name := by
  simp only [enumeration, variant?] at h
  split at h
  next found number hfind =>
    obtain rfl := Value.string.inj (Except.ok.inj h)
    have hname := List.find?_some hfind
    exact (of_decide_eq_true hname).symm
  next => cases h

theorem firstNamed_of_enumeration {type : EnumType} {variants : List (String × Int16)} {n : Int}
    {name : String} (hselects : SelectsBy Zone.utc type variants v n)
    (h : enumeration type variants v = .ok (.string name)) :
    FirstNamed variants n name := by
  obtain ⟨found, hfound, heq⟩ := (hselects.named _).mp h
  rwa [Value.string.inj heq]

theorem enumeration_eq_nullLiteral_iff {type : EnumType} {variants : List (String × Int16)} :
    (∃ raw, isNullSpelling raw = false ∧
      enumeration type variants raw = .ok (.string Value.nullLiteral)) ↔
      ∃ n, FirstNamed variants n Value.nullLiteral := by
  constructor
  · rintro ⟨raw, hraw, h⟩
    cases raw with
    | string s =>
      obtain rfl := eq_of_enumeration_string h
      cases hraw
    | int n => exact ⟨_, firstNamed_of_enumeration (selectsBy_int n) h⟩
    | uint n => exact ⟨_, firstNamed_of_enumeration (selectsBy_uint n) h⟩
    | _ => cases h
  · rintro ⟨n, hfirst⟩
    obtain ⟨before, number, after, -, hnumber, -⟩ := id hfirst
    have hselects : SelectsBy Zone.utc type variants (.int number.toInt64) number.toInt64.toInt :=
      selectsBy_int _
    rw [Int16.toInt_toInt64, hnumber] at hselects
    exact ⟨.int number.toInt64, rfl, (hselects.named _).mpr ⟨_, hfirst, rfl⟩⟩

end Column

namespace ColumnType

variable {zone : Zone} {type : ColumnType} {raw v : Value}

/-- What a column makes of a value that it holds. -/
def renewed : ColumnType → Value → Value
  | .nullable inner, v => if Column.isNullSpelling v then .null else inner.renewed v
  | .array inner, .array items => .array (items.map inner.renewed)
  | _, v => v

/-- Somewhere in a value, the text of the literal of null stands where null may stand. -/
def hidesNull : ColumnType → Value → Bool
  | .nullable inner, v => v.string? == some Value.nullLiteral || inner.hidesNull v
  | .array inner, .array items => items.any inner.hidesNull
  | _, _ => false

theorem normalize_of_admits (h : type.Admits v) : type.normalize zone v = .ok (type.renewed v) := by
  induction h with
  | fixedString size unpadded =>
    rw [normalize, Column.fixedString, Column.unpad_eq_self unpadded, if_neg (Nat.not_lt.mpr size)]
    rfl
  | int least greatest =>
    obtain ⟨n, hnumber, hholds⟩ := admits_int_iff.mp (.int least greatest)
    exact Column.int_of_isNumber hnumber hholds
  | @enumeration type _ _ declared => exact Column.enumeration_of_declared type declared
  | @nullable inner v _ ih =>
    rw [normalize, renewed]
    split_ifs
    · rfl
    · exact ih
  | @array inner items _ ih =>
    have hitems : items.mapM (inner.normalize zone) = .ok (items.map inner.renewed) := by
      rw [Outcome.mapM_eq_ok, List.forall₂_map_right_iff]
      exact List.forall₂_same.mpr ih
    rw [normalize, hitems]
    rfl
  | _ => rfl

theorem renewed_null (type : ColumnType) : type.renewed .null = .null := by
  cases type <;> rfl

theorem isNullSpelling_renewed (type : ColumnType) (v : Value) :
    Column.isNullSpelling (type.renewed v) = Column.isNullSpelling v := by
  induction type with
  | nullable inner ih =>
    rw [renewed]
    split_ifs with hnull
    · exact hnull.symm
    · exact ih
  | array => cases v <;> rfl
  | _ => rfl

theorem renewed_idem (type : ColumnType) (v : Value) :
    type.renewed (type.renewed v) = type.renewed v := by
  induction type generalizing v with
  | nullable inner ih =>
    rw [renewed, isNullSpelling_renewed]
    split_ifs with hnull
    · rw [renewed, if_pos hnull]
    · rw [renewed, if_neg hnull, ih]
  | array inner ih =>
    cases v with
    | array items =>
      have hitems : (items.map inner.renewed).map inner.renewed = items.map inner.renewed := by
        rw [List.map_map]
        exact List.map_congr_left fun item _ => ih item
      rw [renewed, renewed, hitems]
    | _ => rfl
  | _ => rfl

theorem renewed_eq_self_iff : type.renewed v = v ↔ type.hidesNull v = false := by
  induction type generalizing v with
  | nullable inner ih =>
    rw [renewed, hidesNull, Bool.or_eq_false_iff, ← ih]
    split_ifs with hnull
    case pos =>
      rcases Column.isNullSpelling_iff.mp hnull with rfl | rfl
      · exact iff_of_true rfl ⟨rfl, renewed_null inner⟩
      · exact iff_of_false nofun fun h => Bool.noConfusion h.1
    case neg =>
      rw [Column.isNullSpelling_eq_or, Bool.not_eq_true, Bool.or_eq_false_iff] at hnull
      exact (and_iff_right hnull.2).symm
  | array inner ih =>
    cases v with
    | array items =>
      have hitems : items.map inner.renewed = items.map id ↔
          ∀ item ∈ items, inner.renewed item = item :=
        List.map_inj_left
      rw [List.map_id] at hitems
      rw [renewed, hidesNull, Value.array.injEq, hitems, List.any_eq_false]
      exact forall₂_congr fun item _ => by rw [ih, Bool.not_eq_true]
    | _ => exact iff_of_true rfl rfl
  | _ => exact iff_of_true rfl rfl

/-- Whether the column makes the text of the literal of null of a value that does not spell null. -/
def MakesNullText : ColumnType → Prop
  | .fixedString limit => 2 ≤ limit
  | .enumeration _ variants => ∃ n, FirstNamed variants n Value.nullLiteral
  | .nullable inner => inner.MakesNullText
  | _ => False

/-- Whether null may stand where the column makes the text of its literal of another value. -/
def ConfusesNull : ColumnType → Prop
  | .nullable inner => inner.MakesNullText ∨ inner.ConfusesNull
  | .array inner => inner.ConfusesNull
  | _ => False

theorem makesNullText_iff (zone : Zone) : type.MakesNullText ↔
    ∃ raw, Column.isNullSpelling raw = false ∧
      type.normalize zone raw = .ok (.string Value.nullLiteral) := by
  induction type with
  | fixedString limit => exact Column.fixedString_eq_nullLiteral_iff.symm
  | enumeration type variants => exact Column.enumeration_eq_nullLiteral_iff.symm
  | nullable inner ih =>
    refine ih.trans (exists_congr fun raw => and_congr_right fun hraw => ?_)
    rw [normalize, if_neg (ne_true_of_eq_false hraw)]
  | string =>
    refine iff_of_false not_false ?_
    rintro ⟨raw, hraw, h⟩
    cases raw with
    | string s =>
      obtain rfl := Value.string.inj (Except.ok.inj h)
      cases hraw
    | _ => cases h
  | _ =>
    refine iff_of_false not_false ?_
    rintro ⟨raw, -, h⟩
    exact Bool.noConfusion (admits_iff.mpr (admits_of_normalize h))

theorem hidesNull_null (type : ColumnType) : type.hidesNull .null = false :=
  renewed_eq_self_iff.mp (renewed_null type)

/-- What spells null becomes null itself, or is refused. -/
theorem not_isNullSpelling_of_hidesNull (h : type.normalize zone raw = .ok v)
    (hhides : type.hidesNull v = true) :
    ¬ Column.isNullSpelling raw = true := by
  intro hraw
  cases type with
  | nullable inner =>
    rw [normalize_nullable_of_isNullSpelling inner hraw] at h
    obtain rfl := Except.ok.inj h
    rw [hidesNull_null] at hhides
    cases hhides
  | array inner =>
    cases raw with
    | array => cases hraw
    | _ => cases h
  | _ => cases hhides

theorem exists_hidesNull_nullable_iff {inner : ColumnType} :
    (∃ raw v, (nullable inner).normalize zone raw = .ok v ∧ (nullable inner).hidesNull v = true) ↔
      (∃ raw, Column.isNullSpelling raw = false ∧
        inner.normalize zone raw = .ok (.string Value.nullLiteral)) ∨
        ∃ raw v, inner.normalize zone raw = .ok v ∧ inner.hidesNull v = true := by
  constructor
  · rintro ⟨raw, v, h, hhides⟩
    have hraw := not_isNullSpelling_of_hidesNull h hhides
    rw [normalize, if_neg hraw] at h
    rw [hidesNull, Bool.or_eq_true] at hhides
    rcases hhides with htext | hinner
    · obtain rfl := Value.string?_eq_some_iff.mp (eq_of_beq htext)
      exact .inl ⟨raw, eq_false_of_ne_true hraw, h⟩
    · exact .inr ⟨raw, v, h, hinner⟩
  · rintro (⟨raw, hraw, h⟩ | ⟨raw, v, h, hhides⟩)
    · refine ⟨raw, .string Value.nullLiteral, ?_, rfl⟩
      rw [normalize, if_neg (ne_true_of_eq_false hraw), h]
    · have hraw := not_isNullSpelling_of_hidesNull h hhides
      refine ⟨raw, v, ?_, ?_⟩
      · rw [normalize, if_neg hraw, h]
      · rw [hidesNull, hhides, Bool.or_true]

theorem exists_hidesNull_array_iff {inner : ColumnType} :
    (∃ raw v, (array inner).normalize zone raw = .ok v ∧ (array inner).hidesNull v = true) ↔
      ∃ raw v, inner.normalize zone raw = .ok v ∧ inner.hidesNull v = true := by
  constructor
  · rintro ⟨raw, v, h, hhides⟩
    cases raw with
    | array items =>
      obtain ⟨values, hvalues, rfl⟩ := Outcome.map_eq_ok.mp h
      obtain ⟨value, hvalue, hhidden⟩ := List.any_eq_true.mp hhides
      obtain ⟨item, -, hitem⟩ := Outcome.exists_of_mem_mapM hvalues hvalue
      exact ⟨item, value, hitem, hhidden⟩
    | _ => cases h
  · rintro ⟨raw, v, h, hhides⟩
    refine ⟨.array [raw], .array [v], ?_, ?_⟩
    · rw [normalize, Outcome.mapM_eq_ok.mpr (.cons h .nil)]
      rfl
    · rw [hidesNull, List.any_cons, hhides, Bool.true_or]

/-- Some value hides null after it is normalized exactly if the column confuses null with its
text. -/
theorem confusesNull_iff (zone : Zone) : type.ConfusesNull ↔
    ∃ raw v, type.normalize zone raw = .ok v ∧ type.hidesNull v = true := by
  induction type with
  | nullable inner ih =>
    rw [ConfusesNull, exists_hidesNull_nullable_iff, makesNullText_iff zone, ih]
  | array inner ih => rw [ConfusesNull, exists_hidesNull_array_iff, ih]
  | _ =>
    refine iff_of_false not_false ?_
    rintro ⟨raw, v, -, hhides⟩
    exact Bool.noConfusion hhides

theorem normalize_eq_self_iff (h : type.normalize zone raw = .ok v) :
    type.normalize zone v = .ok v ↔ type.hidesNull v = false := by
  rw [normalize_of_admits (admits_of_normalize h), Except.ok.injEq, renewed_eq_self_iff]

theorem normalize_renewed (h : type.normalize zone raw = .ok v) :
    type.normalize zone (type.renewed v) = .ok (type.renewed v) := by
  have hagain : type.normalize zone v = .ok (type.renewed v) :=
    normalize_of_admits (admits_of_normalize h)
  rw [normalize_of_admits (admits_of_normalize hagain), renewed_idem]

/-- Every normalized value stays as it is exactly if the column does not confuse null with its
text. -/
theorem normalize_idem_iff (zone : Zone) (type : ColumnType) :
    (∀ raw v, type.normalize zone raw = .ok v → type.normalize zone v = .ok v) ↔
      ¬ type.ConfusesNull := by
  rw [confusesNull_iff zone]
  push Not
  refine forall_congr' fun raw => forall_congr' fun v => forall_congr' fun h => ?_
  rw [normalize_eq_self_iff h, ne_eq, Bool.not_eq_true]

end ColumnType

end SelectBuilder
