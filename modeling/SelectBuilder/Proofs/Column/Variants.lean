import Mathlib.Algebra.Group.Int.Defs
import Mathlib.Algebra.Group.Nat.Defs
import Mathlib.Data.List.Basic
import SelectBuilder.Column.Normalize

/-! Variants of an enumeration by their numbers. A signed number selects the first variant that
stands for it. An unsigned number is wrapped to a signed word first, so that one above all signed
words may select a variant as well. -/
namespace SelectBuilder

/-- The first variant that stands for a number, and its name. -/
def FirstNamed (variants : List (String × Int16)) (n : Int) (name : String) : Prop :=
  ∃ before number after, variants = before ++ (name, number) :: after ∧ number.toInt = n ∧
    ∀ other ∈ before, other.2.toInt ≠ n

theorem find?_eq_some_iff_firstNamed {variants : List (String × Int16)} {n : Int} {name : String} :
    (∃ number, variants.find? (·.2.toInt = n) = some (name, number)) ↔
      FirstNamed variants n name := by
  simp only [List.find?_eq_some_iff_append, FirstNamed, decide_eq_true_eq, Bool.not_eq_true',
    decide_eq_false_iff_not]
  constructor
  · rintro ⟨number, hnumber, before, after, hsplit, hbefore⟩
    exact ⟨before, number, after, hsplit, hnumber, hbefore⟩
  · rintro ⟨before, number, after, hsplit, hnumber, hbefore⟩
    exact ⟨number, hnumber, before, after, hsplit, hbefore⟩

theorem FirstNamed.declared {variants : List (String × Int16)} {n : Int} {name : String}
    (h : FirstNamed variants n name) : ∃ variant ∈ variants, variant.2.toInt = n := by
  obtain ⟨before, number, after, rfl, hnumber, -⟩ := h
  exact ⟨(name, number), by simp, hnumber⟩

/-- A raw value selects the variants of an enumeration by a number: it is accepted exactly if some
variant stands for the number, the result is the name of the first one that does, and else it is
refused as no member. -/
structure SelectsBy (zone : Zone) (type : EnumType) (variants : List (String × Int16)) (raw : Value)
    (n : Int) :
    Prop where
  accepted : ((ColumnType.enumeration type variants).normalize zone raw).isOk = true ↔
    ∃ variant ∈ variants, variant.2.toInt = n
  named : ∀ v, (ColumnType.enumeration type variants).normalize zone raw = .ok v ↔
    ∃ name, FirstNamed variants n name ∧ v = .string name
  refused : (¬ ∃ variant ∈ variants, variant.2.toInt = n) →
    (ColumnType.enumeration type variants).normalize zone raw =
      .error (.notMember raw (.enumeration type variants))

namespace Column

variable {type : EnumType} {variants : List (String × Int16)} {zone : Zone} {raw : Value} {n : Int}

theorem selectsBy_of_none (hnone : ¬ ∃ variant ∈ variants, variant.2.toInt = n)
    (h : enumeration type variants raw = .error (.notMember raw (.enumeration type variants))) :
    SelectsBy zone type variants raw n := by
  have herror : (ColumnType.enumeration type variants).normalize zone raw =
      .error (.notMember raw (.enumeration type variants)) := h
  constructor
  case accepted =>
    rw [herror]
    exact iff_of_false Bool.false_ne_true hnone
  case named =>
    intro v
    rw [herror]
    refine iff_of_false nofun ?_
    rintro ⟨name, hname, -⟩
    exact hnone hname.declared
  case refused => exact fun _ => herror

theorem selectsBy_of_find?
    (hfound : ∀ name number, variants.find? (·.2.toInt = n) = some (name, number) →
      enumeration type variants raw = .ok (.string name))
    (hmissed : variants.find? (·.2.toInt = n) = none →
      enumeration type variants raw = .error (.notMember raw (.enumeration type variants))) :
    SelectsBy zone type variants raw n := by
  cases hfind : variants.find? (·.2.toInt = n) with
  | none =>
    have hnone : ¬ ∃ variant ∈ variants, variant.2.toInt = n := by
      simpa using List.find?_eq_none.mp hfind
    exact selectsBy_of_none hnone (hmissed hfind)
  | some variant =>
    obtain ⟨name, number⟩ := variant
    have hdeclared : ∃ variant ∈ variants, variant.2.toInt = n :=
      ⟨_, List.mem_of_find?_eq_some hfind, by simpa using List.find?_some hfind⟩
    have hok : (ColumnType.enumeration type variants).normalize zone raw = .ok (.string name) :=
      hfound name number hfind
    constructor
    case accepted =>
      rw [hok]
      exact iff_of_true rfl hdeclared
    case named =>
      intro v
      rw [hok, Except.ok.injEq]
      constructor
      · rintro rfl
        exact ⟨name, find?_eq_some_iff_firstNamed.mp ⟨number, hfind⟩, rfl⟩
      · rintro ⟨other, hother, rfl⟩
        obtain ⟨_, hfirst⟩ := find?_eq_some_iff_firstNamed.mpr hother
        rw [hfind] at hfirst
        rw [(Prod.mk.inj (Option.some.inj hfirst)).1]
    case refused => exact fun hnone => absurd hdeclared hnone

theorem toInt64_eq_iff (number : Int16) (n : Int64) :
    number.toInt64 = n ↔ number.toInt = n.toInt := by
  rw [← Int64.toInt_inj, Int16.toInt_toInt64]

theorem selectsBy_int (n : Int64) : SelectsBy zone type variants (.int n) n.toInt := by
  apply selectsBy_of_find?
  · intro name number h
    simp only [enumeration, variant?, toInt64_eq_iff, h]
  · intro h
    simp only [enumeration, variant?, toInt64_eq_iff, h]

theorem selectsBy_uint (n : UInt64) : SelectsBy zone type variants (.uint n) n.toInt64.toInt := by
  apply selectsBy_of_find?
  · intro name number h
    simp only [enumeration, variant?, toInt64_eq_iff, h]
  · intro h
    simp only [enumeration, variant?, toInt64_eq_iff, h]

/-- A word read with a sign: from its highest bit on, a number is 2^64 less. -/
theorem toInt_toInt64 (n : UInt64) :
    n.toInt64.toInt = if n.toNat < 2 ^ 63 then (n.toNat : Int) else n.toNat - 2 ^ 64 := by
  have hvalue : n.toInt64.toInt = n.toBitVec.toInt := rfl
  have hnat : n.toBitVec.toNat = n.toNat := rfl
  rw [hvalue, BitVec.toInt_eq_toNat_cond, hnat]
  split <;> split <;> omega

end Column

/-- Some variant stands for the number that an unsigned one wraps to, 2^64 below it. -/
def WrapsToVariant (variants : List (String × Int16)) (n : UInt64) : Prop :=
  ∃ variant ∈ variants, variant.2.toInt + 2 ^ 64 = n.toNat

/-- A signed number selects by itself, and so does an unsigned one unless it wraps to the number of
a variant. In each case it selects by what the word reads with a sign. -/
theorem numbers_select_variants_iff (zone : Zone) (type : EnumType)
    (variants : List (String × Int16)) :
    (∀ n : Int64, SelectsBy zone type variants (.int n) n.toInt) ∧
      (∀ n : UInt64, SelectsBy zone type variants (.uint n) n.toInt64.toInt) ∧
        ∀ n : UInt64, SelectsBy zone type variants (.uint n) n.toNat ↔
      ¬ WrapsToVariant variants n := by
  refine ⟨Column.selectsBy_int, Column.selectsBy_uint, fun n => ?_⟩
  have hwrapped : SelectsBy zone type variants (.uint n) n.toInt64.toInt := Column.selectsBy_uint n
  rw [Column.toInt_toInt64] at hwrapped
  by_cases hsmall : n.toNat < 2 ^ 63
  case pos =>
    rw [if_pos hsmall] at hwrapped
    refine iff_of_true hwrapped ?_
    rintro ⟨variant, -, hvalue⟩
    have hleast := variant.2.le_toInt
    omega
  case neg =>
    rw [if_neg hsmall] at hwrapped
    have hlarge : ¬ ∃ variant ∈ variants, variant.2.toInt = n.toNat := by
      rintro ⟨variant, -, hvalue⟩
      have hgreatest := variant.2.toInt_lt
      omega
    have hwraps : WrapsToVariant variants n ↔
        ∃ variant ∈ variants, variant.2.toInt = n.toNat - 2 ^ 64 :=
      exists_congr fun variant => and_congr_right fun _ => by omega
    rw [hwraps]
    constructor
    · intro hselects hdeclared
      exact hlarge (hselects.accepted.mp (hwrapped.accepted.mpr hdeclared))
    · exact fun hnone => Column.selectsBy_of_none hlarge (hwrapped.refused hnone)

/-- The greatest unsigned word selects the variant that stands for -1. -/
theorem unsigned_number_wraps :
    ¬ SelectsBy Zone.utc .enum8 [("missing", -1)] (.uint 18446744073709551615)
      18446744073709551615 := by
  intro h
  have haccepted : ∃ variant ∈ [("missing", (-1 : Int16))],
      variant.2.toInt = 18446744073709551615 :=
    h.accepted.mp rfl
  revert haccepted
  decide

end SelectBuilder
