import SelectBuilder.Proofs.Number.Signed

/-! Numerals without a minus sign. -/
namespace SelectBuilder.Numeral

variable {limit n : Nat} {s : List Char}

/-- A text that writes a natural number: digits, behind a plus sign or none. -/
inductive WritesNatural : List Char → Nat → Prop
  | plain {s : List Char} (hne : s ≠ []) (hs : ∀ c ∈ s, c.isDigit = true) :
      WritesNatural s (Nat.ofDigitChars 10 s 0)
  | plus {s : List Char} (hne : s ≠ []) (hs : ∀ c ∈ s, c.isDigit = true) :
      WritesNatural ('+' :: s) (Nat.ofDigitChars 10 s 0)

theorem magnitude_eq_ok_iff : magnitude limit s = .ok n ↔
    (s ≠ [] ∧ ∀ c ∈ s, c.isDigit = true) ∧ Nat.ofDigitChars 10 s 0 = n ∧ n ≤ limit := by
  constructor
  · intro h
    obtain ⟨⟨hne, hs⟩, rfl⟩ := eq_of_magnitude_eq_ok h
    refine ⟨⟨hne, hs⟩, rfl, ?_⟩
    by_contra hlimit
    rw [magnitude_digits hne hs, if_neg hlimit] at h
    cases h
  · rintro ⟨⟨hne, hs⟩, rfl, hlimit⟩
    rw [magnitude_digits hne hs, if_pos hlimit]

theorem nat_of_digits (hne : s ≠ []) (hs : ∀ c ∈ s, c.isDigit = true) :
    nat limit s = magnitude limit s := by
  obtain ⟨c, t, rfl⟩ := List.exists_cons_of_ne_nil hne
  have hsign : c ≠ '+' := by
    rintro rfl
    exact absurd (hs '+' (List.mem_cons_self ..)) (by decide)
  exact nat.eq_3 _ _ (List.cons_ne_nil c t) fun _ h => hsign (List.cons.inj h).1

/-- Reading takes exactly the texts that write a number within the bound. -/
theorem nat_eq_ok_iff : nat limit s = .ok n ↔ WritesNatural s n ∧ n ≤ limit := by
  constructor
  · intro h
    unfold nat at h
    split at h
    next => cases h
    next rest =>
      obtain ⟨⟨hne, hs⟩, rfl, hlimit⟩ := magnitude_eq_ok_iff.mp h
      exact ⟨.plus hne hs, hlimit⟩
    next =>
      obtain ⟨⟨hne, hs⟩, rfl, hlimit⟩ := magnitude_eq_ok_iff.mp h
      exact ⟨.plain hne hs, hlimit⟩
  · rintro ⟨hwrites, hlimit⟩
    cases hwrites with
    | plain hne hs =>
      rw [nat_of_digits hne hs]
      exact magnitude_eq_ok_iff.mpr ⟨⟨hne, hs⟩, rfl, hlimit⟩
    | plus hne hs => exact magnitude_eq_ok_iff.mpr ⟨⟨hne, hs⟩, rfl, hlimit⟩

theorem uint64_eq_ok_iff {s : String} {n : UInt64} :
    uint64 s = .ok n ↔ WritesNatural s.toList n.toNat := by
  rw [uint64, Outcome.map_eq_ok]
  constructor
  · rintro ⟨m, hm, rfl⟩
    obtain ⟨hwrites, hlimit⟩ := nat_eq_ok_iff.mp hm
    rwa [UInt64.toNat_ofNat_of_lt' (Nat.lt_of_le_pred (Nat.two_pow_pos 64) hlimit)]
  · intro h
    have hlimit : n.toNat ≤ 2 ^ 64 - 1 := Nat.le_pred_of_lt n.toNat_lt
    exact ⟨n.toNat, nat_eq_ok_iff.mpr ⟨h, hlimit⟩, UInt64.ofNat_toNat⟩

end SelectBuilder.Numeral
