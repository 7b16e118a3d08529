import SelectBuilder.Proofs.Calendar.Reading
import SelectBuilder.Proofs.Outcome

/-! Numerals of any length in a bounded number of bits. What a text writes is read if it fits, and
refused if it does not; leading zeros count for nothing. -/
namespace SelectBuilder.Numeral

/-- A text that writes a whole number: digits, behind a sign or none. -/
inductive Writes : List Char → Int → Prop
  | plain {s : List Char} (hne : s ≠ []) (hs : ∀ c ∈ s, c.isDigit = true) :
      Writes s (Nat.ofDigitChars 10 s 0)
  | plus {s : List Char} (hne : s ≠ []) (hs : ∀ c ∈ s, c.isDigit = true) :
      Writes ('+' :: s) (Nat.ofDigitChars 10 s 0)
  | minus {s : List Char} (hne : s ≠ []) (hs : ∀ c ∈ s, c.isDigit = true) :
      Writes ('-' :: s) (-(Nat.ofDigitChars 10 s 0 : Int))

/-- A number that has room in so many bits, one of them for the sign. -/
def Fits (bits : Nat) (n : Int) : Prop :=
  -((2 ^ (bits - 1) : Nat) : Int) ≤ n ∧ n < (2 ^ (bits - 1) : Nat)

instance (bits : Nat) (n : Int) : Decidable (Fits bits n) :=
  inferInstanceAs (Decidable (_ ∧ _))

variable {limit : Nat} {s : List Char} {n : Int}

/-- Digits past the bound are refused, wherever they pass it. -/
theorem digits_eq_tooLarge {acc : Nat} (hs : ∀ c ∈ s, c.isDigit = true) (hacc : acc ≤ limit)
    (h : limit < Nat.ofDigitChars 10 s acc) : digits limit acc s = .error .tooLarge := by
  induction s generalizing acc with
  | nil => exact absurd hacc (Nat.not_le.mpr h)
  | cons c s ih =>
    obtain ⟨hc, hs⟩ := List.forall_mem_cons.mp hs
    rw [Nat.ofDigitChars_cons, Nat.mul_comm] at h
    rw [digits, digit?_of_isDigit hc]
    dsimp only
    by_cases hbound : acc * 10 + (c.toNat - '0'.toNat) ≤ limit
    · rw [if_pos hbound, ih hs hbound h]
    · rw [if_neg hbound]

theorem magnitude_digits (hne : s ≠ []) (hs : ∀ c ∈ s, c.isDigit = true) :
    magnitude limit s =
      if Nat.ofDigitChars 10 s 0 ≤ limit then .ok (Nat.ofDigitChars 10 s 0) else
        .error .tooLarge := by
  rw [magnitude, if_neg (by rwa [List.isEmpty_iff])]
  split
  next h => exact digits_eq_ok hs h
  next h => exact digits_eq_tooLarge hs (Nat.zero_le _) (Nat.lt_of_not_le h)

theorem map_magnitude_digits (hne : s ≠ []) (hs : ∀ c ∈ s, c.isDigit = true) (bits : Nat) :
    (magnitude (2 ^ (bits - 1) - 1) s).map Int.ofNat =
      if Fits bits (Nat.ofDigitChars 10 s 0) then .ok (Nat.ofDigitChars 10 s 0 : Int) else
        .error .tooLarge := by
  have hpos : 0 < 2 ^ (bits - 1) := Nat.two_pow_pos _
  rw [magnitude_digits hne hs]
  by_cases h : Nat.ofDigitChars 10 s 0 ≤ 2 ^ (bits - 1) - 1
  · have hfits : Fits bits (Nat.ofDigitChars 10 s 0) := by
      unfold Fits
      omega
    rw [if_pos h, if_pos hfits]
    rfl
  · have hfits : ¬ Fits bits (Nat.ofDigitChars 10 s 0) := by
      unfold Fits
      omega
    rw [if_neg h, if_neg hfits]
    rfl

theorem Writes.int (h : Writes s n) (bits : Nat) :
    int bits s = if Fits bits n then .ok n else
      .error (if n < 0 then .tooSmall else .tooLarge) := by
  cases h with
  | plain hne hs =>
    obtain ⟨c, t, rfl⟩ := List.exists_cons_of_ne_nil hne
    have hsign : c ≠ '-' ∧ c ≠ '+' := by
      have hc := hs c (List.mem_cons_self ..)
      constructor <;> rintro rfl <;> exact absurd hc (by decide)
    have hread : int bits (c :: t) = (magnitude (2 ^ (bits - 1) - 1) (c :: t)).map Int.ofNat := by
      unfold int
      split
      next h => cases h
      next h => exact absurd (List.cons.inj h).1 hsign.1
      next h => exact absurd (List.cons.inj h).1 hsign.2
      next => rfl
    rw [hread, map_magnitude_digits hne hs, if_neg (Int.not_lt.mpr (Int.natCast_nonneg _))]
  | plus hne hs =>
    rw [Numeral.int, map_magnitude_digits hne hs, if_neg (Int.not_lt.mpr (Int.natCast_nonneg _))]
  | @minus s hne hs =>
    have hpos : 0 < 2 ^ (bits - 1) := Nat.two_pow_pos _
    rw [Numeral.int, magnitude_digits hne hs]
    by_cases h : Nat.ofDigitChars 10 s 0 ≤ 2 ^ (bits - 1)
    · have hfits : Fits bits (-(Nat.ofDigitChars 10 s 0 : Int)) := by
        unfold Fits
        omega
      rw [if_pos h, if_pos hfits]
    · have hfits : ¬ Fits bits (-(Nat.ofDigitChars 10 s 0 : Int)) := by
        unfold Fits
        omega
      rw [if_neg h, if_neg hfits, if_pos (by omega)]

theorem eq_of_digits_eq_ok {acc m : Nat} (h : digits limit acc s = .ok m) :
    (∀ c ∈ s, c.isDigit = true) ∧ m = Nat.ofDigitChars 10 s acc := by
  induction s generalizing acc with
  | nil => exact ⟨nofun, (Except.ok.inj h).symm⟩
  | cons c s ih =>
    rw [digits] at h
    split at h
    next => cases h
    next d hd =>
      have hc : c.isDigit = true := by
        by_contra hc
        rw [digit?, if_neg hc] at hd
        cases hd
      rw [digit?_of_isDigit hc] at hd
      obtain rfl := Option.some.inj hd
      split at h
      next =>
        obtain ⟨hs, hm⟩ := ih h
        rw [Nat.ofDigitChars_cons, Nat.mul_comm]
        exact ⟨List.forall_mem_cons.mpr ⟨hc, hs⟩, hm⟩
      next => cases h

theorem eq_of_magnitude_eq_ok {m : Nat} (h : magnitude limit s = .ok m) :
    (s ≠ [] ∧ ∀ c ∈ s, c.isDigit = true) ∧ m = Nat.ofDigitChars 10 s 0 := by
  rw [magnitude] at h
  split at h
  next => cases h
  next hne =>
    obtain ⟨hs, hm⟩ := eq_of_digits_eq_ok h
    exact ⟨⟨fun hs => hne (List.isEmpty_iff.mpr hs), hs⟩, hm⟩

/-- A text is read as the number that it writes, and only then. -/
theorem writes_of_int_eq_ok {bits : Nat} (h : int bits s = .ok n) : Writes s n := by
  unfold int at h
  split at h
  next => cases h
  next rest =>
    split at h
    next m hm =>
      obtain ⟨⟨hne, hs⟩, rfl⟩ := eq_of_magnitude_eq_ok hm
      obtain rfl := Except.ok.inj h
      exact .minus hne hs
    next => cases h
    next => cases h
  next rest =>
    obtain ⟨m, hm, rfl⟩ := Outcome.map_eq_ok.mp h
    obtain ⟨⟨hne, hs⟩, rfl⟩ := eq_of_magnitude_eq_ok hm
    exact .plus hne hs
  next =>
    obtain ⟨m, hm, rfl⟩ := Outcome.map_eq_ok.mp h
    obtain ⟨⟨hne, hs⟩, rfl⟩ := eq_of_magnitude_eq_ok hm
    exact .plain hne hs

/-- Reading in a number of bits takes exactly the texts that write a number which fits. -/
theorem int_eq_ok_iff {bits : Nat} : int bits s = .ok n ↔ Writes s n ∧ Fits bits n := by
  constructor
  · intro h
    have hwrites := writes_of_int_eq_ok h
    rw [hwrites.int] at h
    refine ⟨hwrites, ?_⟩
    by_contra hfits
    rw [if_neg hfits] at h
    cases h
  · rintro ⟨hwrites, hfits⟩
    rw [hwrites.int, if_pos hfits]

theorem Writes.isBlank_eq_false (h : Writes s n) : ∀ c ∈ s, Text.isBlank c = false := by
  have hdigits : ∀ s : List Char, (∀ c ∈ s, c.isDigit = true) → ∀ c ∈ s, Text.isBlank c = false :=
    fun _ hs c hc => Text.isBlank_of_isDigit (hs c hc)
  cases h with
  | plain _ hs => exact hdigits _ hs
  | plus _ hs => exact List.forall_mem_cons.mpr ⟨by decide, hdigits _ hs⟩
  | minus _ hs => exact List.forall_mem_cons.mpr ⟨by decide, hdigits _ hs⟩

/-- The text of a number writes it, with zeros in front or without. -/
theorem writes_paddedInt (width : Nat) (n : Int) : Writes (paddedInt width n).toList n := by
  cases n with
  | ofNat n =>
    have hplain := Writes.plain (padded_ne_nil width n) isDigit_of_mem_padded
    rw [ofDigitChars_padded] at hplain
    rwa [paddedInt, String.toList_ofList]
  | negSucc n =>
    have hminus := Writes.minus (padded_ne_nil (width - 1) (n + 1)) isDigit_of_mem_padded
    rw [ofDigitChars_padded] at hminus
    rwa [paddedInt, String.toList_ofList]

theorem writes_toString (n : Int) : Writes (toString n).toList n := by
  rw [toString_eq_paddedInt]
  exact writes_paddedInt 0 n

end SelectBuilder.Numeral
