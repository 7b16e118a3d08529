import SelectBuilder.Number.Numeral

/-! Dates of the proleptic Gregorian calendar and their distance in days from the first of January
1970. -/
namespace SelectBuilder

/-- A year, a month and a day, which need not name a date. -/
structure Civil where
  year : Int
  month : Nat
  day : Nat
  deriving DecidableEq, Repr

namespace Civil

def isLeapYear (year : Int) : Bool :=
  year % 4 == 0 && (year % 100 != 0 || year % 400 == 0)

/-- The length of a month, 0 for a number that is no month. -/
def daysInMonth (year : Int) (month : Nat) : Nat :=
  match month with
  | 1 | 3 | 5 | 7 | 8 | 10 | 12 => 31
  | 4 | 6 | 9 | 11 => 30
  | 2 => if isLeapYear year then 29 else 28
  | _ => 0

/-- The calendar has this date, and its year is in range. -/
def Exists (c : Civil) : Prop :=
  (-262143 ≤ c.year ∧ c.year ≤ 262142) ∧ (1 ≤ c.month ∧ c.month ≤ 12) ∧
    1 ≤ c.day ∧ c.day ≤ daysInMonth c.year c.month

instance (c : Civil) : Decidable c.Exists :=
  inferInstanceAs (Decidable (_ ∧ _ ∧ _ ∧ _))

/-- Days since the first of January 1970. The year is counted from March on, so that a leap day is
the last one, and years come in groups of four hundred with 146097 days. -/
def days (c : Civil) : Int :=
  let year := if c.month ≤ 2 then c.year - 1 else c.year
  let month : Int := if c.month ≤ 2 then c.month + 9 else c.month - 3
  let inGroup := year % 400
  let dayOfYear := (153 * month + 2) / 5 + c.day - 1
  year / 400 * 146097 + (365 * inGroup + inGroup / 4 - inGroup / 100 + dayOfYear) - 719468

def ofDays (n : Int) : Civil :=
  let group := (n + 719468) / 146097
  let dayOfGroup := (n + 719468) % 146097
  let inGroup := (dayOfGroup - dayOfGroup / 1460 + dayOfGroup / 36524 - dayOfGroup / 146096) / 365
  let dayOfYear := dayOfGroup - (365 * inGroup + inGroup / 4 - inGroup / 100)
  let month := (5 * dayOfYear + 2) / 153
  let day := dayOfYear - (153 * month + 2) / 5 + 1
  let year := group * 400 + inGroup
  if month < 10 then ⟨year, (month + 3).toNat, day.toNat⟩
  else ⟨year + 1, (month - 9).toNat, day.toNat⟩

/-- A year has four digits at least; outside 0 to 9999 its sign is written too. -/
def yearText (year : Int) : String :=
  if year < 0 then Numeral.paddedInt 5 year
  else if 9999 < year then "+" ++ Numeral.paddedInt 4 year
  else Numeral.paddedInt 4 year

def twoDigits (n : Nat) : String :=
  Numeral.paddedInt 2 n

def text (c : Civil) : String :=
  yearText c.year ++ "-" ++ twoDigits c.month ++ "-" ++ twoDigits c.day

end Civil

structure Date where
  civil : Civil
  valid : civil.Exists
  deriving DecidableEq

namespace Date

def ofCivil? (c : Civil) : Option Date :=
  if h : c.Exists then some ⟨c, h⟩ else none

def ofDays? (n : Int) : Option Date :=
  ofCivil? (Civil.ofDays n)

def days (d : Date) : Int :=
  d.civil.days

def text (d : Date) : String :=
  d.civil.text

def epoch : Date := ⟨⟨1970, 1, 1⟩, by decide⟩

end Date

end SelectBuilder
