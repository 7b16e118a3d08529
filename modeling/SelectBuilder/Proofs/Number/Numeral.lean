import Mathlib.Algebra.Group.Int.Defs
import Mathlib.Algebra.Group.Nat.Defs
import Mathlib.Data.List.Basic
import SelectBuilder.Calendar.Reading

/-! Numerals read back. What is written for a number is one run of digits, with a sign at most, so
that it ends where no digit follows. -/
namespace SelectBuilder

namespace Numeral

def NoDigitAhead (s : List Char) : Prop :=
  ∀ c ∈ s.head?, c.isDigit = false

theorem noDigitAhead_cons {c : Char} (h : c.isDigit = false) (s : List Char) :
    NoDigitAhead (c :: s) := by
  rintro _ ⟨⟩
  exact h

theorem noDigitAhead_nil : NoDigitAhead [] := by
  rintro _ ⟨⟩

theorem isDigit_of_mem_padded {width n : Nat} : ∀ c ∈ padded width n, c.isDigit = true := by
  intro c hc
  rcases List.mem_append.mp hc with hc | hc
  · rw [List.eq_of_mem_replicate hc]
    rfl
  · exact Nat.isDigit_of_mem_toDigits (by decide) (by decide) hc

theorem padded_ne_nil (width n : Nat) : padded width n ≠ [] :=
  List.append_ne_nil_of_right_ne_nil _ Nat.toDigits_ne_nil

theorem exists_padded_eq_cons (width n : Nat) :
    ∃ c s, padded width n = c :: s ∧ c.isDigit = true := by
  obtain ⟨c, s, h⟩ := List.exists_cons_of_ne_nil (padded_ne_nil width n)
  have hc : c ∈ padded width n := by
    rw [h]
    exact List.mem_cons_self ..
  exact ⟨c, s, h, isDigit_of_mem_padded c hc⟩

theorem padded_append_ne_cons {c : Char} (hc : c.isDigit = false) (width n : Nat)
    (rest s : List Char) :
    padded width n ++ rest ≠ c :: s := by
  obtain ⟨d, t, h, hd⟩ := exists_padded_eq_cons width n
  rw [h]
  rintro ⟨⟩
  exact Bool.noConfusion (hc.symm.trans hd)

theorem length_padded {width n : Nat} (hw : 0 < width) (h : n < 10 ^ width) :
    (padded width n).length = width := by
  have hlength := (Nat.length_toDigits_le_iff (by decide) hw).mpr h
  rw [padded, List.length_leftpad]
  exact Nat.max_eq_left hlength

theorem ofDigitChars_padded (width n : Nat) : Nat.ofDigitChars 10 (padded width n) 0 = n := by
  rw [padded, List.leftpad, Nat.ofDigitChars_append, Nat.ofDigitChars_replicate_zero, Nat.mul_zero,
    Nat.ofDigitChars_ten_toDigits]

theorem takeWhile_of_noDigitAhead {s : List Char} (h : NoDigitAhead s) (k : Nat) :
    (s.take k).takeWhile Char.isDigit = [] := by
  cases s with
  | nil => rw [List.take_nil, List.takeWhile_nil]
  | cons c s =>
    cases k with
    | zero => rfl
    | succ k => rw [List.take_succ_cons, List.takeWhile_cons_of_neg (by rw [h c rfl]; decide)]

/-- A whole number with its sign, as far as its digits go. -/
def read (s : List Char) : Option (Int × List Char) :=
  match s with
  | '-' :: rest => (Reading.number? rest.length rest).map fun (n, after) => (-(n : Int), after)
  | _ => (Reading.number? s.length s).map fun (n, after) => ((n : Int), after)

end Numeral

namespace Reading

open Numeral (padded NoDigitAhead)

theorem leadingDigits_append {most : Nat} {digits rest : List Char}
    (hd : ∀ c ∈ digits, c.isDigit = true) (hmost : digits.length ≤ most)
    (hrest : NoDigitAhead rest ∨ most = digits.length) :
    leadingDigits most (digits ++ rest) = digits := by
  have hstop : (rest.take (most - digits.length)).takeWhile Char.isDigit = [] := by
    rcases hrest with hrest | rfl
    · exact Numeral.takeWhile_of_noDigitAhead hrest _
    · rw [Nat.sub_self, List.take_zero, List.takeWhile_nil]
  rw [leadingDigits, List.take_append, List.take_of_length_le hmost,
    List.takeWhile_append_of_pos hd, hstop, List.append_nil]

theorem number?_padded {most width n : Nat} {rest : List Char}
    (hmost : (padded width n).length ≤ most)
    (hrest : NoDigitAhead rest ∨ most = (padded width n).length) :
    number? most (padded width n ++ rest) = some (n, rest) := by
  have hdigits := leadingDigits_append Numeral.isDigit_of_mem_padded hmost hrest
  have hne : (padded width n).isEmpty = false :=
    List.isEmpty_eq_false_iff.mpr (Numeral.padded_ne_nil width n)
  simp only [number?, hdigits, hne, Numeral.ofDigitChars_padded, List.drop_left,
    Bool.false_eq_true, if_false]

theorem number?_length {width n : Nat} {rest : List Char} (hrest : NoDigitAhead rest) :
    number? (padded width n ++ rest).length (padded width n ++ rest) = some (n, rest) := by
  refine number?_padded ?_ (.inl hrest)
  rw [List.length_append]
  exact Nat.le_add_right ..

end Reading

namespace Numeral

theorem toString_eq_paddedInt (n : Int) : toString n = paddedInt 0 n := by
  cases n with
  | ofNat n =>
    have htext : toString (Int.ofNat n) = toString n := rfl
    rw [htext, Nat.toString_eq_ofList_toDigits, paddedInt, padded, List.leftpad, Nat.zero_sub,
      List.replicate_zero, List.nil_append]
  | negSucc n =>
    have htext : toString (Int.negSucc n) = "-" ++ toString (n + 1) := rfl
    rw [htext, Nat.toString_eq_ofList_toDigits, paddedInt, padded, List.leftpad, Nat.zero_sub,
      List.replicate_zero, List.nil_append, ← String.toList_inj]
    simp

/-- A number reads back, whether it is padded or not. -/
theorem read_paddedInt {rest : List Char} (hrest : NoDigitAhead rest) (width : Nat) (n : Int) :
    read ((paddedInt width n).toList ++ rest) = some (n, rest) := by
  cases n with
  | ofNat n =>
    rw [paddedInt, String.toList_ofList,
      read.eq_2 _ (padded_append_ne_cons (by decide) width n rest),
      Reading.number?_length hrest, Option.map_some]
    rfl
  | negSucc n =>
    rw [paddedInt, String.toList_ofList, List.cons_append, read, Reading.number?_length hrest,
      Option.map_some]
    rfl

theorem digit?_of_isDigit {c : Char} (h : c.isDigit = true) :
    digit? c = some (c.toNat - '0'.toNat) :=
  if_pos h

theorem digits_eq_ok {limit acc : Nat} {s : List Char} (hs : ∀ c ∈ s, c.isDigit = true)
    (h : Nat.ofDigitChars 10 s acc ≤ limit) :
    digits limit acc s = .ok (Nat.ofDigitChars 10 s acc) := by
  induction s generalizing acc with
  | nil => rfl
  | cons c s ih =>
    obtain ⟨hc, hs⟩ := List.forall_mem_cons.mp hs
    rw [Nat.ofDigitChars_cons, Nat.mul_comm] at h ⊢
    -- a number only grows with the digits behind it
    have hbound : acc * 10 + (c.toNat - '0'.toNat) ≤ limit := by
      rw [Nat.ofDigitChars_eq_ofDigitChars_zero] at h
      have hgrows : acc * 10 + (c.toNat - '0'.toNat) ≤
          10 ^ s.length * (acc * 10 + (c.toNat - '0'.toNat)) :=
        Nat.le_mul_of_pos_left _ (Nat.pow_pos (by decide))
      exact Nat.le_trans (Nat.le_trans hgrows (Nat.le_add_right ..)) h
    rw [digits, digit?_of_isDigit hc]
    dsimp only
    rw [if_pos hbound, ih hs h]

theorem nat_toDigits {limit n : Nat} (h : n ≤ limit) : nat limit (Nat.toDigits 10 n) = .ok n := by
  have hdigits : ∀ c ∈ Nat.toDigits 10 n, c.isDigit = true := fun c hc =>
    Nat.isDigit_of_mem_toDigits (by decide) (by decide) hc
  have hvalue : Nat.ofDigitChars 10 (Nat.toDigits 10 n) 0 = n := Nat.ofDigitChars_ten_toDigits
  obtain ⟨c, s, hs⟩ := List.exists_cons_of_ne_nil (l := Nat.toDigits 10 n) Nat.toDigits_ne_nil
  rw [hs] at hdigits hvalue ⊢
  have hsign : c ≠ '+' := fun hc => absurd (hdigits c (List.mem_cons_self ..)) (by rw [hc]; decide)
  have hread : nat limit (c :: s) = magnitude limit (c :: s) := by
    rw [nat.eq_3 _ _ (by simp) (by simp [hsign])]
  rw [hread, magnitude, List.isEmpty_cons, if_neg (by decide),
    digits_eq_ok hdigits (by rwa [hvalue]), hvalue]

theorem uint64_toString {n : Nat} (h : n < 2 ^ 64) :
    uint64 (toString n) = .ok (UInt64.ofNat n) := by
  have hbound : n ≤ 2 ^ 64 - 1 := Nat.le_pred_of_lt h
  rw [uint64, Nat.toString_eq_ofList_toDigits, String.toList_ofList, nat_toDigits hbound]
  rfl

end Numeral

end SelectBuilder
