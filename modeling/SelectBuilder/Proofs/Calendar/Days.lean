import Mathlib.Data.List.Basic
import SelectBuilder.Calendar.Date

/-! Day numbers and dates. The date of a day number has that number, and it exists exactly where its
year is in range; the days of a year lie between its first of January and the next one. -/
namespace SelectBuilder.Civil

theorem isLeapYear_iff {year : Int} :
    isLeapYear year = true ↔ year % 4 = 0 ∧ (year % 100 ≠ 0 ∨ year % 400 = 0) := by
  simp [isLeapYear]

/-- Where a day lies in a group of four hundred years that are counted from March on: in a century,
in four years of it, in one of these, and in that year. Only the last of four years has a day 365,
and at the end of a century only the last century does. -/
structure GroupDay (d : Int) where
  century : Int
  fours : Int
  year : Int
  day : Int
  century_range : 0 ≤ century ∧ century ≤ 3
  fours_range : 0 ≤ fours ∧ fours ≤ 24
  year_range : 0 ≤ year ∧ year ≤ 3
  day_range : 0 ≤ day ∧ day ≤ 365
  leap_day : day = 365 → year = 3 ∧ (fours = 24 → century = 3)
  sum : d = 36524 * century + (1461 * fours + (365 * year + day))

namespace GroupDay

def ofDay {d : Int} (hd : 0 ≤ d ∧ d ≤ 146096) : GroupDay d :=
  let century := min (d / 36524) 3
  let fours := (d - 36524 * century) / 1461
  let year := min ((d - 36524 * century - 1461 * fours) / 365) 3
  { century, fours, year
    day := d - 36524 * century - 1461 * fours - 365 * year
    century_range := by omega
    fours_range := by omega
    year_range := by omega
    day_range := by omega
    leap_day := by omega
    sum := by omega }

variable {d : Int} (p : GroupDay d)

def yearOfGroup : Int :=
  100 * p.century + 4 * p.fours + p.year

theorem yearOfGroup_range : 0 ≤ p.yearOfGroup ∧ p.yearOfGroup ≤ 399 := by
  obtain ⟨century, fours, year, day, hcentury, hfours, hyear, -, -, -⟩ := p
  dsimp only [yearOfGroup]
  omega

theorem century_eq {c r : Int} (hc : 0 ≤ c ∧ c ≤ 3) (hr : 0 ≤ r ∧ r ≤ 36524)
    (hlast : r = 36524 → c = 3) :
    (36524 * c + r) / 36524 - (36524 * c + r) / 146096 = c := by
  by_cases h : r = 36524
  · rw [h, hlast h]
    decide
  · omega

theorem yearOfGroup_eq : (d - d / 1460 + d / 36524 - d / 146096) / 365 = p.yearOfGroup := by
  obtain ⟨c, k, j, e, hc, hk, hj, he, hleap, rfl⟩ := p
  dsimp only [yearOfGroup]
  have hcentury := century_eq (r := 1461 * k + (365 * j + e)) hc (by omega) (by omega)
  have hfours : (36524 * c + (1461 * k + (365 * j + e))) / 1460 =
      25 * c + k + (24 * c + k + 365 * j + e) / 1460 := by
    omega
  -- a day 365 is the only one in front of which 1460 days fit once more
  have hday : 0 ≤ e - (24 * c + k + 365 * j + e) / 1460 ∧
      e - (24 * c + k + 365 * j + e) / 1460 ≤ 364 := by
    omega
  omega

theorem daysBefore_eq :
    365 * p.yearOfGroup + p.yearOfGroup / 4 - p.yearOfGroup / 100 = d - p.day := by
  obtain ⟨c, k, j, e, hc, hk, hj, he, hleap, rfl⟩ := p
  dsimp only [yearOfGroup]
  omega

/-- A day 365 is the leap day of the calendar year that has begun by then. -/
theorem isLeapYear_of_day (group : Int) (h : p.day = 365) :
    isLeapYear (group * 400 + p.yearOfGroup + 1) = true := by
  obtain ⟨c, k, j, e, hc, hk, hj, he, hleap, rfl⟩ := p
  obtain ⟨hyear, hfours⟩ := hleap h
  dsimp only [yearOfGroup] at hyear hfours ⊢
  rw [isLeapYear_iff]
  omega

end GroupDay

/-- The date of a day of a year that is counted from March on. -/
def ofMarch (year day : Int) : Civil :=
  let month := (5 * day + 2) / 153
  let dayOfMonth := day - (153 * month + 2) / 5 + 1
  if month < 10 then ⟨year, (month + 3).toNat, dayOfMonth.toNat⟩
  else ⟨year + 1, (month - 9).toNat, dayOfMonth.toNat⟩

theorem ofDays_eq_ofMarch (n : Int) (p : GroupDay ((n + 719468) % 146097)) :
    ofDays n = ofMarch ((n + 719468) / 146097 * 400 + p.yearOfGroup) p.day := by
  unfold ofDays
  dsimp only
  rw [p.yearOfGroup_eq, p.daysBefore_eq, Int.sub_sub_self]
  rfl

section March

variable {year day : Int} (hday : 0 ≤ day ∧ day ≤ 365)

include hday

theorem days_ofMarch : (ofMarch year day).days =
    year / 400 * 146097 + (365 * (year % 400) + year % 400 / 4 - year % 400 / 100 + day) -
      719468 := by
  unfold ofMarch days
  dsimp only
  split
  next h =>
    have hmonth : ¬ ((5 * day + 2) / 153 + 3).toNat ≤ 2 := by omega
    dsimp only
    rw [if_neg hmonth, if_neg hmonth]
    omega
  next h =>
    have hmonth : ((5 * day + 2) / 153 - 9).toNat ≤ 2 := by omega
    dsimp only
    rw [if_pos hmonth, if_pos hmonth]
    omega

theorem month_ofMarch : 1 ≤ (ofMarch year day).month ∧ (ofMarch year day).month ≤ 12 := by
  unfold ofMarch
  dsimp only
  split <;> dsimp only <;> omega

omit hday in
theorem day_ofMarch_pos : 1 ≤ (ofMarch year day).day := by
  unfold ofMarch
  dsimp only
  split <;> dsimp only <;> omega

theorem day_ofMarch_le (hleap : day = 365 → isLeapYear (year + 1) = true) :
    (ofMarch year day).day ≤ daysInMonth (ofMarch year day).year (ofMarch year day).month := by
  have hmonth : 0 ≤ (5 * day + 2) / 153 ∧ (5 * day + 2) / 153 ≤ 11 := by omega
  unfold ofMarch
  dsimp only
  generalize hm : (5 * day + 2) / 153 = month at *
  obtain ⟨hlow, hhigh⟩ := hmonth
  by_cases hfebruary : month = 11
  · subst hfebruary
    have hlength : daysInMonth (year + 1) 2 = if isLeapYear (year + 1) then 29 else 28 := rfl
    simp only [show ¬ (11 : Int) < 10 by decide, if_false,
      show ((11 : Int) - 9).toNat = 2 by decide, hlength]
    by_cases hlast : day = 365
    · rw [if_pos (hleap hlast)]
      omega
    · split <;> omega
  · have hother : month = 0 ∨ month = 1 ∨ month = 2 ∨ month = 3 ∨ month = 4 ∨ month = 5 ∨
        month = 6 ∨ month = 7 ∨ month = 8 ∨ month = 9 ∨ month = 10 := by omega
    rcases hother with rfl | rfl | rfl | rfl | rfl | rfl | rfl | rfl | rfl | rfl | rfl <;>
      simp [daysInMonth] <;> omega

end March

theorem days_ofDays (n : Int) : (ofDays n).days = n := by
  let p : GroupDay ((n + 719468) % 146097) := .ofDay (by omega)
  obtain ⟨hlow, hhigh⟩ := p.yearOfGroup_range
  have hbefore := p.daysBefore_eq
  rw [ofDays_eq_ofMarch n p, days_ofMarch p.day_range]
  have hgroup : ((n + 719468) / 146097 * 400 + p.yearOfGroup) / 400 = (n + 719468) / 146097 := by
    omega
  have hyear : ((n + 719468) / 146097 * 400 + p.yearOfGroup) % 400 = p.yearOfGroup := by omega
  rw [hgroup, hyear, hbefore]
  omega

/-- Whatever its year, the date of a day number is one of its month. -/
theorem ofDays_in_month (n : Int) : (1 ≤ (ofDays n).month ∧ (ofDays n).month ≤ 12) ∧
    1 ≤ (ofDays n).day ∧ (ofDays n).day ≤ daysInMonth (ofDays n).year (ofDays n).month := by
  let p : GroupDay ((n + 719468) % 146097) := .ofDay (by omega)
  rw [ofDays_eq_ofMarch n p]
  exact ⟨month_ofMarch p.day_range, day_ofMarch_pos,
    day_ofMarch_le p.day_range (p.isLeapYear_of_day _)⟩

def newYear (year : Int) : Int :=
  days ⟨year, 1, 1⟩

theorem newYear_eq (year : Int) :
    newYear year = 365 * year + (year - 1) / 4 - (year - 1) / 100 + (year - 1) / 400 - 719527 := by
  have hfirst : (1 : Nat) ≤ 2 := by decide
  unfold newYear days
  dsimp only
  rw [if_pos hfirst]
  omega

theorem newYear_mono {year later : Int} (h : year ≤ later) : newYear year ≤ newYear later := by
  rw [newYear_eq, newYear_eq]
  omega

variable {c : Civil}

theorem days_in_year (hmonth : 1 ≤ c.month ∧ c.month ≤ 12) (hday : 1 ≤ c.day ∧ c.day ≤ 31) :
    newYear c.year ≤ c.days ∧ c.days < newYear (c.year + 1) := by
  rw [newYear_eq, newYear_eq]
  unfold days
  dsimp only
  split <;> omega

theorem daysInMonth_le (year : Int) (month : Nat) : daysInMonth year month ≤ 31 := by
  unfold daysInMonth
  split <;> first | decide | (split <;> decide)

/-- The years of the calendar are those of the day numbers in its range. -/
theorem year_in_range_iff (hmonth : 1 ≤ c.month ∧ c.month ≤ 12) (hday : 1 ≤ c.day ∧ c.day ≤ 31) :
    (-262143 ≤ c.year ∧ c.year ≤ 262142) ↔ -96465292 ≤ c.days ∧ c.days ≤ 95026236 := by
  obtain ⟨hlow, hhigh⟩ := days_in_year hmonth hday
  have hfirst : newYear (-262143) = -96465292 := by decide
  have hend : newYear 262143 = 95026237 := by decide
  constructor
  · rintro ⟨hleast, hgreatest⟩
    have hstart := newYear_mono hleast
    have hstop := newYear_mono (show c.year + 1 ≤ 262143 by omega)
    omega
  · rintro ⟨hleast, hgreatest⟩
    by_contra hyear
    by_cases hearly : c.year + 1 ≤ -262143
    · have hstop := newYear_mono hearly
      omega
    · have hstart := newYear_mono (show 262143 ≤ c.year by omega)
      omega

theorem Exists.days_range (h : c.Exists) : -96465292 ≤ c.days ∧ c.days ≤ 95026236 := by
  obtain ⟨hyear, hmonth, hfirst, hlast⟩ := h
  exact (year_in_range_iff hmonth ⟨hfirst, Nat.le_trans hlast (daysInMonth_le ..)⟩).mp hyear

theorem exists_ofDays {n : Int} (h : -96465292 ≤ n ∧ n ≤ 95026236) : (ofDays n).Exists := by
  obtain ⟨hmonth, hfirst, hlast⟩ := ofDays_in_month n
  refine ⟨?_, hmonth, hfirst, hlast⟩
  rwa [year_in_range_iff hmonth ⟨hfirst, Nat.le_trans hlast (daysInMonth_le ..)⟩, days_ofDays]

end SelectBuilder.Civil
