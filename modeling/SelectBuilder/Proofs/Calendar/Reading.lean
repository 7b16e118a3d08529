import SelectBuilder.Proofs.Calendar.Days
import SelectBuilder.Proofs.Number.Numeral

/-! Dates read back from their texts. The year has as many digits as it needs, and its sign stands
where it has more than four. -/
namespace SelectBuilder

open Numeral (padded NoDigitAhead)

theorem Text.isBlank_of_isDigit {c : Char} (h : c.isDigit = true) : isBlank c = false := by
  have hc : 48 ≤ c.toNat ∧ c.toNat ≤ 57 := by
    simpa [Char.isDigit, UInt32.le_iff_toNat_le] using h
  obtain ⟨hlow, hhigh⟩ := hc
  simp only [isBlank, Bool.or_eq_false_iff, Bool.and_eq_false_iff, decide_eq_false_iff_not,
    beq_eq_false_iff_ne]
  omega

theorem Civil.toList_text_append (c : Civil) (rest : List Char) :
    c.text.toList ++ rest = (yearText c.year).toList ++
    ('-' :: ((twoDigits c.month).toList ++ ('-' ::
      ((twoDigits c.day).toList ++ rest)))) := by
  simp [text]

namespace Reading

theorem mark?_cons (c : Char) (rest : List Char) : mark? c (c :: rest) = some rest :=
  if_pos rfl

theorem skipBlanks_cons {c : Char} (h : Text.isBlank c = false) (s : List Char) :
    skipBlanks (c :: s) = c :: s := by
  rw [skipBlanks, List.dropWhile_cons_of_neg (by rw [h]; decide)]

theorem skipBlanks_padded (width n : Nat) (rest : List Char) :
    skipBlanks (padded width n ++ rest) = padded width n ++ rest := by
  obtain ⟨c, s, h, hc⟩ := Numeral.exists_padded_eq_cons width n
  rw [h]
  exact skipBlanks_cons (Text.isBlank_of_isDigit hc) _

theorem number?_two {n : Nat} (h : n < 100) (rest : List Char) :
    number? 2 (skipBlanks ((Civil.twoDigits n).toList ++ rest)) = some (n, rest) := by
  have hlength : (padded 2 n).length = 2 := Numeral.length_padded (by decide) h
  have htext : (Civil.twoDigits n).toList = padded 2 n := String.toList_ofList
  rw [htext, skipBlanks_padded]
  exact number?_padded (Nat.le_of_eq hlength) (.inr hlength.symm)

theorem year?_yearText (year : Int) {rest : List Char} (hrest : NoDigitAhead rest) :
    year? ((Civil.yearText year).toList ++ rest) = some (year, rest) := by
  cases year with
  | negSucc n =>
    have htext : (Civil.yearText (Int.negSucc n)).toList = '-' :: padded 4 (n + 1) := by
      rw [Civil.yearText, if_pos (Int.negSucc_lt_zero n)]
      exact String.toList_ofList
    have hread : year? ('-' :: (padded 4 (n + 1) ++ rest)) =
        (number? (padded 4 (n + 1) ++ rest).length (padded 4 (n + 1) ++ rest)).map
          fun p => (-(p.1 : Int), p.2) := by
      rw [year?, skipBlanks_cons (by decide)]
      rfl
    rw [htext, List.cons_append, hread, number?_length hrest]
    rfl
  | ofNat n =>
    have hnat : ¬ Int.ofNat n < 0 := Int.not_lt.mpr (Int.natCast_nonneg n)
    by_cases h : 9999 < Int.ofNat n
    · have htext : (Civil.yearText (Int.ofNat n)).toList = '+' :: padded 4 n := by
        rw [Civil.yearText, if_neg hnat, if_pos h, String.toList_append]
        exact congrArg ('+' :: ·) String.toList_ofList
      have hread : year? ('+' :: (padded 4 n ++ rest)) =
          (number? (padded 4 n ++ rest).length (padded 4 n ++ rest)).map fun p =>
            ((p.1 : Int), p.2) := by
        rw [year?, skipBlanks_cons (by decide)]
        rfl
      rw [htext, List.cons_append, hread, number?_length hrest]
      rfl
    · have htext : (Civil.yearText (Int.ofNat n)).toList = padded 4 n := by
        rw [Civil.yearText, if_neg hnat, if_neg h]
        exact String.toList_ofList
      have hlength : (padded 4 n).length = 4 := Numeral.length_padded (by decide) (by
        rw [Int.ofNat_eq_natCast] at h
        omega)
      rw [htext, year?, skipBlanks_padded]
      split
      next t ht => exact absurd ht (Numeral.padded_append_ne_cons (by decide) 4 n rest t)
      next t ht => exact absurd ht (Numeral.padded_append_ne_cons (by decide) 4 n rest t)
      next =>
        rw [number?_padded (Nat.le_of_eq hlength) (.inr hlength.symm)]
        rfl

/-- Year, month and day read back from the text of a date, whatever follows it. -/
theorem civil?_text {c : Civil} (hc : c.Exists) (rest : List Char) :
    civil? (c.text.toList ++ rest) = some (c, rest) := by
  obtain ⟨-, ⟨-, hmonth⟩, -, hday⟩ := hc
  have hshort := Civil.daysInMonth_le c.year c.month
  rw [Civil.toList_text_append, civil?,
    year?_yearText c.year (Numeral.noDigitAhead_cons (by decide) _)]
  simp only [Option.bind_eq_bind, Option.bind_some, mark?_cons]
  rw [number?_two (by omega)]
  simp only [Option.bind_some, mark?_cons]
  rw [number?_two (by omega)]
  rfl

theorem date?_text (d : Date) : date? d.text.toList = some d := by
  have hread := civil?_text d.valid []
  rw [List.append_nil] at hread
  have hdate : Date.ofCivil? d.civil = some d := dif_pos d.valid
  rw [date?, Date.text, hread]
  exact hdate

end Reading

end SelectBuilder
