import SelectBuilder.Column.Literal
import SelectBuilder.Proofs.Calendar.Instants
import SelectBuilder.Proofs.Column.Integer

/-! Dates and times in columns. What is written for a date or an instant is read as the same day or
second, by the one form of several that it is meant for, and a number of seconds means the same as a
number and as digits. -/
namespace SelectBuilder

theorem Text.escapeLetter?_of_isTimeChar {c : Char} (h : Reading.isTimeChar c = true) :
    escapeLetter? c = none := by
  unfold escapeLetter?
  split <;> first | rfl | exact absurd h (by decide)

theorem Date.text_ne (d : Date) {s : String} (h : Reading.date? s.toList = none) : d.text ≠ s := by
  rintro rfl
  rw [Reading.date?_text] at h
  cases h

namespace Value

/-- The literals of dates and instants have nothing to escape. -/
theorem literal_date (d : Date) : (date d).literal false = d.text :=
  Text.escape_eq_self fun c hc =>
    Text.escapeLetter?_of_isTimeChar
      (List.all_eq_true.mp (Reading.all_isTimeChar_civil d.civil) c hc)

theorem literal_dateTime (t : Instant) : (dateTime t).literal false = t.text :=
  Text.escape_eq_self fun c hc =>
    Text.escapeLetter?_of_isTimeChar (List.all_eq_true.mp (Reading.all_isTimeChar_local t.utc) c hc)

end Value

namespace Column

variable {zone : Zone} {raw : Value} {n : Nat}

/-- A text with a dash that is not the one for the first instant, and without an offset from UTC, is
a local time or a date. -/
theorem instant?_of_text {s : String} (htrim : Text.trimChars s.toList = s.toList)
    (hzero : s ≠ zeroDateTime) (hdash : '-' ∈ s.toList)
    (hinternet : Reading.internet? s.toList = none) :
    instant? zone s = match Reading.localTime? s.toList with
      | some t => zone.instant? t
      | none => (Reading.date? s.toList).bind fun d => zone.instant? (.midnight d.civil) := by
  have hdigits : s.toList.all Char.isDigit = false :=
    List.all_eq_false.mpr ⟨'-', hdash, by decide⟩
  rw [instant?, htrim, String.ofList_toList, if_neg hzero, hdigits, Bool.and_false,
    if_neg Bool.false_ne_true]
  generalize Reading.internet? s.toList = found at hinternet ⊢
  subst hinternet
  rfl

theorem dash_mem_text (c : Civil) : '-' ∈ c.text.toList := by
  simp [Civil.text]

theorem localTime?_date (d : Date) : Reading.localTime? d.text.toList = none := by
  have hread := Reading.civil?_text d.valid []
  rw [List.append_nil] at hread
  rw [Reading.localTime?, Date.text, hread]
  rfl

theorem date_text (d : Date) : date zone (.string d.text) = .ok (.date d) := by
  have hzero : d.text ≠ zeroDate := d.text_ne rfl
  rw [date, if_neg hzero, Date.text, Reading.trimChars_civil, ← Date.text, Reading.date?_text]
  rfl

theorem exists_dateTime_date (d : Date) : ∃ t : Instant, t.utc = .midnight d.civil ∧
    dateTime Zone.utc (.date d) = .ok (.dateTime t) ∧
    dateTime Zone.utc (.string d.text) = .ok (.dateTime t) := by
  obtain ⟨t, ht⟩ := d.exists_midnight
  have hmidnight : Zone.utc.instant? (.midnight d.civil) = some t := by
    rw [← ht, Zone.instant?_utc, t.at?_utc]
  have hzero : d.text ≠ zeroDateTime := d.text_ne rfl
  have hinternet := Reading.internet?_date d.valid (.inl rfl)
  rw [List.append_nil] at hinternet
  refine ⟨t, ht, ?_, ?_⟩
  · rw [dateTime, hmidnight]
  · rw [dateTime,
      instant?_of_text (s := d.text) (Reading.trimChars_civil d.civil) hzero
        (dash_mem_text d.civil) hinternet,
      localTime?_date, Reading.date?_text]
    dsimp only [Option.bind_some]
    rw [hmidnight]
    rfl

/-- An instant is read as the second that its text shows. -/
theorem dateTime_text (t : Instant) :
    dateTime Zone.utc (.string t.text) = .ok (.dateTime t.shown) := by
  have hread := Reading.localTime?_text t
  have hzero : t.text ≠ zeroDateTime := by
    intro h
    rw [h] at hread
    cases hread
  have hdash : '-' ∈ t.text.toList := by
    rw [Reading.toList_text]
    exact List.mem_append_left _ (dash_mem_text t.utc.date)
  have hinternet : Reading.internet? t.text.toList = none := by
    obtain ⟨hour, minute, second, htext, hhour, hminute, hsecond, -⟩ := Reading.exists_clockChars t
    rw [Reading.toList_text, htext]
    exact Reading.internet?_date t.exists_date
      (.inr ⟨hour, minute, second, rfl, hhour, hminute, hsecond⟩)
  rw [dateTime,
    instant?_of_text (s := t.text) (Reading.trimChars_local t.utc) hzero hdash hinternet, hread]
  dsimp only
  rw [Zone.instant?_utc, Instant.at?_utc]
  rfl

/-- What a raw value says in seconds: itself if it is a number that is not negative, and the number
that its digits write if it is a text, whatever white space stands around them. -/
inductive SpellsSeconds : Value → Nat → Prop
  | int {m : Int64} {n : Nat} (value : m.toInt = n) : SpellsSeconds (.int m) n
  | uint (m : UInt64) : SpellsSeconds (.uint m) m.toNat
  | text {s : String} {before digits after : List Char} (hs : s.toList = before ++ digits ++ after)
      (hbefore : ∀ c ∈ before, Text.isBlank c = true) (hne : digits ≠ [])
      (hdigits : ∀ c ∈ digits, c.isDigit = true) (hafter : ∀ c ∈ after, Text.isBlank c = true) :
      SpellsSeconds (.string s) (Nat.ofDigitChars 10 digits 0)

theorem spellsSeconds_toString (n : Nat) : SpellsSeconds (.string (toString n)) n := by
  have hs : (toString n).toList = [] ++ Nat.toDigits 10 n ++ [] := by
    rw [Nat.toString_eq_ofList_toDigits, String.toList_ofList, List.nil_append, List.append_nil]
  have htext := SpellsSeconds.text hs nofun Nat.toDigits_ne_nil
    (fun c hc => Nat.isDigit_of_mem_toDigits (by decide) (by decide) hc) nofun
  rwa [Nat.ofDigitChars_ten_toDigits] at htext

theorem ofTimestamp?_of_large {n : Int} (h : 8210266876799 < n) :
    Instant.ofTimestamp? n = none := by
  rw [Instant.ofTimestamp?_eq_at?]
  exact dif_neg fun hrange => absurd hrange.1.2 (Int.not_le.mpr h)

theorem instant?_of_digits {s : String} {digits : List Char}
    (htrim : Text.trimChars s.toList = digits) (hne : digits ≠ [])
    (hdigits : ∀ c ∈ digits, c.isDigit = true) :
    instant? zone s = Instant.ofTimestamp? (Nat.ofDigitChars 10 digits 0 : Nat) := by
  have hzero : String.ofList digits ≠ zeroDateTime := by
    intro h
    have hdash : '-' ∈ digits := by
      rw [← String.toList_ofList (l := digits), h]
      decide
    exact absurd (hdigits '-' hdash) (by decide)
  have hall : (!digits.isEmpty && digits.all Char.isDigit) = true := by
    rw [List.isEmpty_eq_false_iff.mpr hne, List.all_eq_true.mpr hdigits]
    rfl
  rw [instant?, htrim, if_neg hzero, if_pos hall, (Numeral.Writes.plain hne hdigits).int]
  by_cases hfits : Numeral.Fits 64 (Nat.ofDigitChars 10 digits 0)
  · rw [if_pos hfits]
  · rw [if_neg hfits, ofTimestamp?_of_large]
    unfold Numeral.Fits at hfits
    omega

theorem dateTime_of_spells (h : SpellsSeconds raw n) :
    dateTime zone raw = (expect "datetime" raw (Instant.ofTimestamp? n)).map .dateTime := by
  cases h with
  | int value => rw [dateTime, value]
  | uint m =>
    rw [dateTime]
    by_cases hsmall : m.toNat < 2 ^ 63
    · rw [if_pos hsmall]
    · rw [if_neg hsmall, ofTimestamp?_of_large (by omega)]
  | text hs hbefore hne hdigits hafter =>
    have hbare := (Numeral.Writes.plain hne hdigits).isBlank_eq_false
    rw [dateTime,
      instant?_of_digits (hs ▸ Text.trimChars_surrounded hbefore hbare hafter) hne hdigits]

end Column

namespace ColumnType

open Column (SpellsSeconds)

/-- The text that is written for a date is read as that date by a date column, and by a date-time
column as the midnight that it takes the date itself for. The text that is written for an instant is
read as its second, or as the one behind it for a leap second inside a minute. A number of seconds
is the same instant whatever spells it, as long as it is in the range of timestamps, and refused
whatever spells it beyond. -/
theorem time_spellings_agree :
    (∀ d : Date, date.normalize Zone.utc (.string ((Value.date d).literal false)) = .ok (.date d) ∧
      ∃ t : Instant, t.utc = .midnight d.civil ∧
        dateTime.normalize Zone.utc (.date d) = .ok (.dateTime t) ∧
        dateTime.normalize Zone.utc (.string ((Value.date d).literal false)) = .ok (.dateTime t)) ∧
      (∀ t : Instant, ∃ read : Instant,
        dateTime.normalize Zone.utc (.string ((Value.dateTime t).literal false)) =
            .ok (.dateTime read) ∧
          read.seconds =
            if t.nanos < 1000000000 ∨ t.seconds % 60 = 59 then t.seconds else t.seconds + 1) ∧
      ∀ n : Nat, SpellsSeconds (.string (toString n)) n ∧
        (n ≤ 8210266876799 → ∃ t : Instant, (t.seconds = n ∧ t.nanos = 0) ∧
          ∀ raw, SpellsSeconds raw n → dateTime.normalize Zone.utc raw = .ok (.dateTime t)) ∧
        (8210266876799 < n →
          ∀ raw, SpellsSeconds raw n →
            dateTime.normalize Zone.utc raw = .error (.unexpected "datetime" raw)) := by
  refine ⟨fun d => ?dates, fun t => ⟨t.shown, ?instants, rfl⟩,
    fun n => ⟨Column.spellsSeconds_toString n, ?held, ?refused⟩⟩
  case dates =>
    rw [Value.literal_date]
    exact ⟨Column.date_text d, Column.exists_dateTime_date d⟩
  case instants =>
    rw [Value.literal_dateTime]
    exact Column.dateTime_text t
  case held =>
    intro hn
    let t : Instant := ⟨n, 0, by omega, by decide⟩
    have ht : Instant.ofTimestamp? n = some t := (Instant.ofTimestamp?_eq_at? n).trans t.at?_utc
    refine ⟨t, ⟨rfl, rfl⟩, fun raw hraw => ?_⟩
    rw [normalize, Column.dateTime_of_spells hraw, ht]
    rfl
  case refused =>
    intro hn raw hraw
    rw [normalize, Column.dateTime_of_spells hraw, Column.ofTimestamp?_of_large (by omega)]
    rfl

/-- A date in the year 12345, the leap second at the end of June 1972 with half a second, the last
timestamp with zeros and white space around it, and the first number of seconds that is none. -/
theorem time_spellings_agree_leap_second :
    let leap : Instant := ⟨78796799, 1500000000, by decide, by decide⟩
    let far : Date := ⟨⟨12345, 6, 7⟩, by decide⟩
    let last := Value.string " 008210266876799\t"
    let beyond := Value.string "8210266876800"
    (date.normalize Zone.utc (.string "+12345-06-07") = .ok (.date far)) ∧
      (leap.text = "1972-06-30 23:59:60" ∧ ∃ t : Instant,
        dateTime.normalize Zone.utc (.string "1972-06-30 23:59:60") = .ok (.dateTime t) ∧
        t.seconds = 78796799) ∧
      (8210266876799 ≤ 8210266876799 ∧ SpellsSeconds last 8210266876799 ∧ ∃ t : Instant,
        t.seconds = 8210266876799 ∧ dateTime.normalize Zone.utc last = .ok (.dateTime t)) ∧
      8210266876799 < 8210266876800 ∧ SpellsSeconds beyond 8210266876800 ∧
        dateTime.normalize Zone.utc beyond = .error (.unexpected "datetime" beyond) := by
  intro leap far last beyond
  obtain ⟨hdates, hinstants, hnumbers⟩ := time_spellings_agree
  have hfar : (Value.date far).literal false = "+12345-06-07" := by decide +kernel
  have hleap : leap.text = "1972-06-30 23:59:60" := by decide +kernel
  have hread := hinstants leap
  rw [Value.literal_dateTime, hleap] at hread
  have hlast : SpellsSeconds last 8210266876799 := by
    have hs : " 008210266876799\t".toList = [' '] ++ "008210266876799".toList ++ ['\t'] := rfl
    exact .text hs (List.all_eq_true.mp rfl) (by decide) (List.all_eq_true.mp rfl)
      (List.all_eq_true.mp rfl)
  have hbeyond : SpellsSeconds beyond 8210266876800 := by
    have hs : "8210266876800".toList = [] ++ "8210266876800".toList ++ [] := rfl
    exact .text hs nofun (by decide) (List.all_eq_true.mp rfl) nofun
  obtain ⟨t, ⟨ht, -⟩, hheld⟩ := (hnumbers 8210266876799).2.1 (Nat.le_refl _)
  exact ⟨hfar ▸ (hdates far).1, ⟨hleap, hread⟩, ⟨Nat.le_refl _, hlast, t, ht, hheld last hlast⟩,
    by decide, hbeyond, (hnumbers 8210266876800).2.2 (by decide) beyond hbeyond⟩

/-- A leap second at the end of a minute in Monrovia, where clocks were 44 and a half minutes
behind, stands in the middle of a minute in UTC. It is written as the second behind it and read as
that one. -/
theorem leap_second_read_as_next :
    let monrovia : Zone := ⟨"Africa/Monrovia", -2670, fun _ => []⟩
    let leap : Instant := ⟨2729, 1000000000, by decide, by decide⟩
    let next : Instant := ⟨2730, 0, by decide, by decide⟩
    (dateTime.normalize monrovia (.string "1970-01-01 00:00:60") = .ok (.dateTime leap) ∧
      (Value.dateTime leap).literal false = "1970-01-01 00:45:30" ∧
      dateTime.normalize Zone.utc (.string "1970-01-01 00:45:30") = .ok (.dateTime next)) ∧
    ¬ ∀ t : Instant, ∃ read : Instant,
      dateTime.normalize Zone.utc (.string ((Value.dateTime t).literal false)) =
        .ok (.dateTime read) ∧ read.seconds = t.seconds := by
  intro monrovia leap next
  have hwritten : (Value.dateTime leap).literal false = "1970-01-01 00:45:30" := by decide +kernel
  have hread : dateTime.normalize Zone.utc (.string "1970-01-01 00:45:30") =
      .ok (.dateTime next) := by rfl
  refine ⟨⟨by rfl, hwritten, hread⟩, fun hagree => ?_⟩
  obtain ⟨read, hfound, hsame⟩ := hagree leap
  rw [hwritten, hread] at hfound
  cases hfound
  exact absurd hsame (by decide)

end ColumnType

end SelectBuilder
