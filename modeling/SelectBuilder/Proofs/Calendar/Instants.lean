import SelectBuilder.Calendar.Zone
import SelectBuilder.Proofs.Calendar.Reading
import SelectBuilder.Proofs.Text.Trimming

/-! Instants read back from their texts. A text with date and time is read to the second, also for
years of more than four digits, and is never taken for the internet form, since it has no offset
from UTC. A leap second reads back if it ends a minute; anywhere else its text is that of the second
behind it. -/
namespace SelectBuilder

open Numeral (padded)

/-- The instant that the text of an instant names. -/
def Instant.shown (t : Instant) : Instant where
  seconds := if t.nanos < 1000000000 ∨ t.seconds % 60 = 59 then t.seconds else t.seconds + 1
  nanos := if t.seconds % 60 = 59 then t.nanos / 1000000000 * 1000000000 else 0
  inRange := by
    have hrange := t.inRange
    split <;> omega
  isNanos := by
    have hnanos := t.isNanos
    split <;> omega

theorem Instant.at?_utc (t : Instant) : at? t.utc.seconds t.utc.nanos = some t :=
  dif_pos ⟨t.inRange, t.isNanos⟩

theorem Instant.ofTimestamp?_eq_at? (seconds : Int) : ofTimestamp? seconds = at? seconds 0 := by
  rw [ofTimestamp?, of?, if_pos (.inl (by decide))]

theorem Zone.instant?_utc (t : LocalTime) : utc.instant? t = Instant.at? t.seconds t.nanos := by
  have hshown : ∀ s, s + utc.offsetAt s = s := Int.add_zero
  have hmatching :
      ([utc.standard].map (t.seconds - ·)).filter (fun s => s + utc.offsetAt s = t.seconds) =
      [t.seconds] := by
    simp only [hshown]
    simp [utc]
  rw [instant?]
  exact (congrArg (fun matching => matching.min?.bind (Instant.at? · t.nanos)) hmatching).trans rfl

theorem Instant.exists_date (t : Instant) : t.utc.date.Exists := by
  obtain ⟨hfirst, hlast⟩ := t.inRange
  refine Civil.exists_ofDays ?_
  dsimp only [utc]
  omega

theorem Date.exists_midnight (d : Date) : ∃ t : Instant, t.utc = .midnight d.civil := by
  obtain ⟨hfirst, hlast⟩ := d.valid.days_range
  exact ⟨⟨d.civil.days * 86400, 0, by omega, by decide⟩, rfl⟩

namespace Civil

/-- The text of a year is four digits, or starts with a sign. -/
theorem yearText_cases (year : Int) :
    (∃ n < 10 ^ 4, (yearText year).toList = padded 4 n) ∨
      ∃ sign s, (yearText year).toList = sign :: s ∧ (sign = '-' ∨ sign = '+') := by
  cases year with
  | negSucc n =>
    rw [yearText, if_pos (Int.negSucc_lt_zero n)]
    exact .inr ⟨'-', _, String.toList_ofList, .inl rfl⟩
  | ofNat n =>
    have hnat : ¬ Int.ofNat n < 0 := Int.not_lt.mpr (Int.natCast_nonneg n)
    rw [yearText, if_neg hnat]
    split
    next => exact .inr ⟨'+', _, String.toList_append, .inr rfl⟩
    next h =>
      rw [Int.ofNat_eq_natCast] at h
      exact .inl ⟨n, by omega, String.toList_ofList⟩

end Civil

namespace Reading

theorem fixed?_padded {count n : Nat} (h : (padded count n).length = count) (rest : List Char) :
    fixed? count (padded count n ++ rest) = some (n, rest) := by
  have hdigits : leadingDigits count (padded count n ++ rest) = padded count n :=
    leadingDigits_append Numeral.isDigit_of_mem_padded (Nat.le_of_eq h) (.inr h.symm)
  rw [fixed?, hdigits, if_pos h, Numeral.ofDigitChars_padded, List.drop_left' h]

theorem fixed?_twoDigits {n : Nat} (h : n < 100) (rest : List Char) :
    fixed? 2 ((Civil.twoDigits n).toList ++ rest) = some (n, rest) := by
  have htext : (Civil.twoDigits n).toList = padded 2 n := String.toList_ofList
  rw [htext]
  exact fixed?_padded (Numeral.length_padded (by decide) h) rest

theorem fixed?_cons_of_not_isDigit {c : Char} (hc : c.isDigit = false) (count : Nat)
    (s : List Char) :
    fixed? (count + 1) (c :: s) = none := by
  have hdigits : leadingDigits (count + 1) (c :: s) = [] := by
    rw [leadingDigits, List.take_succ_cons, List.takeWhile_cons_of_neg (by rw [hc]; decide)]
  rw [fixed?, hdigits, if_neg (by simp)]

def clockChars (hour minute second : Nat) : List Char :=
  (Civil.twoDigits hour).toList ++
    (':' :: ((Civil.twoDigits minute).toList ++ (':' :: (Civil.twoDigits second).toList)))

theorem clock?_clockChars {hour minute second : Nat} (hhour : hour < 100) (hminute : minute < 100)
    (hsecond : second < 100) :
    clock? (clockChars hour minute second) = (timeOfDay? hour minute second 0).map fun time =>
      (time, []) := by
  have hend := number?_two hsecond []
  rw [List.append_nil] at hend
  rw [clock?, clockChars, number?_two hhour]
  simp only [Option.bind_eq_bind, Option.bind_some, mark?_cons]
  rw [number?_two hminute]
  simp only [Option.bind_some, mark?_cons]
  rw [hend, Option.bind_some]
  cases timeOfDay? hour minute second 0 <;> rfl

theorem exists_clockChars (t : Instant) : ∃ hour minute second : Nat,
    t.utc.clockText.toList = clockChars hour minute second ∧ hour < 100 ∧ minute < 100 ∧
    second < 100 ∧
      timeOfDay? hour minute second 0 = some ((t.shown.seconds % 86400).toNat, t.shown.nanos) := by
  have hnanos := t.isNanos
  refine ⟨(t.seconds % 86400).toNat / 3600, (t.seconds % 86400).toNat / 60 % 60,
    (t.seconds % 86400).toNat % 60 + t.nanos / 1000000000, ?_, by omega, by omega, by omega, ?_⟩
  · simp [LocalTime.clockText, clockChars, Instant.utc]
  · have hrange :
        ((t.seconds % 86400).toNat / 3600 < 24 && (t.seconds % 86400).toNat / 60 % 60 < 60 &&
        (t.seconds % 86400).toNat % 60 + t.nanos / 1000000000 ≤ 60) = true := by
      simp only [Bool.and_eq_true, decide_eq_true_eq]
      omega
    rw [timeOfDay?, if_pos hrange, Instant.shown]
    dsimp only
    split_ifs <;> refine congrArg some (Prod.ext ?_ ?_) <;> dsimp only <;> omega

/-- A text names a second of the day that it starts with. -/
theorem shown_div_day (t : Instant) : t.shown.seconds / 86400 = t.seconds / 86400 := by
  unfold Instant.shown
  dsimp only
  split <;> omega

theorem toList_text (t : Instant) :
    t.text.toList = t.utc.date.text.toList ++ (' ' :: t.utc.clockText.toList) := by
  simp [Instant.text, LocalTime.text]

theorem onDate?_of_exists {c : Civil} (hc : c.Exists) (time : Nat × Nat) :
    onDate? c time = some ⟨c.days * 86400 + time.1, time.2⟩ := by
  have hdate : Date.ofCivil? c = some ⟨c, hc⟩ := dif_pos hc
  rw [onDate?, hdate]
  rfl

/-- The text of an instant is read as the second that it shows. -/
theorem localTime?_text (t : Instant) : localTime? t.text.toList = some t.shown.utc := by
  obtain ⟨hour, minute, second, htext, hhour, hminute, hsecond, htime⟩ := exists_clockChars t
  have hblank : clock? (' ' :: clockChars hour minute second) =
      clock? (clockChars hour minute second) := rfl
  have hdays : t.utc.date.days = t.shown.seconds / 86400 :=
    (Civil.days_ofDays _).trans (shown_div_day t).symm
  have hmod : (0 : Int) ≤ t.shown.seconds % 86400 := by omega
  rw [localTime?, toList_text, civil?_text t.exists_date, htext]
  simp only [Option.bind_eq_bind, Option.bind_some]
  rw [hblank, clock?_clockChars hhour hminute hsecond, htime]
  simp only [Option.map_some, Option.bind_some]
  rw [onDate?_of_exists t.exists_date, hdays, Int.toNat_of_nonneg hmod, Int.mul_comm,
    Int.mul_ediv_add_emod]
  rfl

def isTimeChar (c : Char) : Bool :=
  c.isDigit || c == '-' || c == '+' || c == ':' || c == ' '

theorem all_isTimeChar_padded (width n : Nat) : (padded width n).all isTimeChar = true :=
  List.all_eq_true.mpr fun c hc => by simp [isTimeChar, Numeral.isDigit_of_mem_padded c hc]

theorem all_isTimeChar_paddedInt (width : Nat) (n : Int) :
    (Numeral.paddedInt width n).toList.all isTimeChar = true := by
  cases n with
  | ofNat n =>
    rw [Numeral.paddedInt, String.toList_ofList]
    exact all_isTimeChar_padded width n
  | negSucc n =>
    rw [Numeral.paddedInt, String.toList_ofList]
    exact all_isTimeChar_padded (width - 1) (n + 1)

theorem all_isTimeChar_twoDigits (n : Nat) : (Civil.twoDigits n).toList.all isTimeChar = true :=
  all_isTimeChar_paddedInt 2 n

theorem all_isTimeChar_yearText (year : Int) :
    (Civil.yearText year).toList.all isTimeChar = true := by
  unfold Civil.yearText
  split_ifs
  · exact all_isTimeChar_paddedInt 5 year
  · rw [String.toList_append]
    exact all_isTimeChar_paddedInt 4 year
  · exact all_isTimeChar_paddedInt 4 year

theorem all_isTimeChar_civil (c : Civil) : c.text.toList.all isTimeChar = true := by
  simp only [Civil.text, String.toList_append, List.all_append, all_isTimeChar_yearText,
    all_isTimeChar_twoDigits, Bool.and_true, Bool.true_and]
  rfl

theorem all_isTimeChar_local (t : LocalTime) : t.text.toList.all isTimeChar = true := by
  simp only [LocalTime.text, LocalTime.clockText, String.toList_append, List.all_append,
    all_isTimeChar_civil, all_isTimeChar_twoDigits, Bool.and_true, Bool.true_and]
  rfl

theorem isBlank_head_text (c : Civil) (rest : List Char) :
    ∀ x ∈ (c.text.toList ++ rest).head?, Text.isBlank x = false := by
  rw [Civil.toList_text_append]
  rcases Civil.yearText_cases c.year with ⟨n, -, hyear⟩ | ⟨sign, s, hyear, hsign⟩
  · obtain ⟨x, s, hx, hdigit⟩ := Numeral.exists_padded_eq_cons 4 n
    rw [hyear, hx]
    rintro _ ⟨⟩
    exact Text.isBlank_of_isDigit hdigit
  · rw [hyear]
    rintro _ ⟨⟩
    rcases hsign with rfl | rfl <;> decide

theorem isBlank_getLast_twoDigits (s : List Char) (n : Nat) :
    ∀ x ∈ (s ++ (Civil.twoDigits n).toList).getLast?, Text.isBlank x = false := by
  have htext : (Civil.twoDigits n).toList = padded 2 n := String.toList_ofList
  intro x hx
  rw [htext, List.getLast?_append_of_ne_nil _ (Numeral.padded_ne_nil 2 n)] at hx
  exact Text.isBlank_of_isDigit (Numeral.isDigit_of_mem_padded x (List.mem_of_getLast? hx))

theorem trimChars_civil (c : Civil) : Text.trimChars c.text.toList = c.text.toList := by
  refine Text.trimChars_eq_self ?_ ?_
  · have hhead := isBlank_head_text c []
    rwa [List.append_nil] at hhead
  · rw [Civil.text, String.toList_append]
    exact isBlank_getLast_twoDigits _ c.day

theorem trimChars_local (t : LocalTime) : Text.trimChars t.text.toList = t.text.toList := by
  refine Text.trimChars_eq_self ?_ ?_
  · rw [LocalTime.text, String.toList_append, String.toList_append, List.append_assoc]
    exact isBlank_head_text t.date _
  · obtain ⟨front, last, htext⟩ : ∃ front last, t.text = front ++ Civil.twoDigits last :=
      ⟨_, _, String.append_assoc.symm⟩
    rw [htext, String.toList_append]
    exact isBlank_getLast_twoDigits _ last

/-- A text that starts with a year, and behind it has a date and no offset from UTC. -/
theorem internet?_date {c : Civil} (hc : c.Exists) {rest : List Char} (hrest : rest = [] ∨
    ∃ hour minute second, rest = ' ' :: clockChars hour minute second ∧ hour < 100 ∧ minute < 100 ∧
      second < 100) :
    internet? (c.text.toList ++ rest) = none := by
  obtain ⟨-, ⟨-, hmonth⟩, -, hday⟩ := hc
  have hshort := Civil.daysInMonth_le c.year c.month
  rw [Civil.toList_text_append, internet?]
  rcases Civil.yearText_cases c.year with ⟨n, hn, hyear⟩ | ⟨sign, s, hyear, hsign⟩
  · have hstep : ∀ {α β : Type} (a : α) (f : α → Option β), some a >>= f = f a := fun _ _ => rfl
    rw [hyear, fixed?_padded (Numeral.length_padded (by decide) hn), hstep]
    dsimp only
    rw [mark?_cons, hstep, fixed?_twoDigits (by omega), hstep]
    dsimp only
    rw [mark?_cons, hstep, fixed?_twoDigits (by omega), hstep]
    dsimp only
    rcases hrest with rfl | ⟨hour, minute, second, rfl, hhour, hminute, hsecond⟩
    · rfl
    · have hend := fixed?_twoDigits hsecond []
      rw [List.append_nil] at hend
      rw [List.head?_cons, hstep, if_neg (by decide), List.tail_cons, clockChars,
        fixed?_twoDigits hhour, hstep]
      dsimp only
      rw [mark?_cons, hstep, fixed?_twoDigits hminute, hstep]
      dsimp only
      rw [mark?_cons, hstep, hend]
      rfl
  · have hnot : sign.isDigit = false := by
      rcases hsign with rfl | rfl <;> rfl
    rw [hyear, List.cons_append, fixed?_cons_of_not_isDigit hnot]
    rfl

end Reading

end SelectBuilder
