import SelectBuilder.Calendar.Instant

/-!
Time zones. A zone has a standard offset and yearly spans of summer time. A local time that occurs
twice means the earlier instant, and one that is skipped means none.
-/
namespace SelectBuilder

/-- Instants from the first to the second are `offset` seconds ahead of UTC. -/
structure Summer where
  start : Int
  stop : Int
  offset : Int
  deriving DecidableEq, Repr

/-- A time zone by its name in the zone database. -/
structure Zone where
  name : String
  /-- Seconds ahead of UTC outside summer time. -/
  standard : Int
  /-- The spans of summer time that start in a year. -/
  summer : Int → List Summer

namespace Zone

def utc : Zone := ⟨"UTC", 0, fun _ => []⟩

/-- Seconds ahead of UTC at an instant. A span lasts less than a year, so it started in this year or
the year before. -/
def offsetAt (zone : Zone) (seconds : Int) : Int :=
  let year := (Civil.ofDays (seconds / 86400)).year
  match (zone.summer (year - 1) ++ zone.summer year).find? fun s =>
      s.start ≤ seconds && seconds < s.stop with
  | some s => s.offset
  | none => zone.standard

def clock (zone : Zone) (t : Instant) : LocalTime :=
  ⟨t.seconds + zone.offsetAt t.seconds, t.nanos⟩

/-- The first instant at which a clock in the zone shows a local time. -/
def instant? (zone : Zone) (t : LocalTime) : Option Instant :=
  let year := t.date.year
  let spans := zone.summer (year - 1) ++ zone.summer year
  let offsets := zone.standard :: spans.map (·.offset)
  let matching := (offsets.map (t.seconds - ·)).filter fun s =>
    s + zone.offsetAt s = t.seconds
  matching.min?.bind (Instant.at? · t.nanos)

def date? (zone : Zone) (t : Instant) : Option Date :=
  Date.ofCivil? (zone.clock t).date

/-- Days from a day number to the Sunday at or after it. The first of January 1970 was a
Thursday. -/
def daysToSunday (n : Int) : Int :=
  (3 - n) % 7

def sundayOf (year : Int) (month k : Nat) : Int :=
  let first := Civil.days ⟨year, month, 1⟩
  first + daysToSunday first + 7 * (k - 1)

/-- The last Sunday of a month with 31 days, as a day number. -/
def lastSundayOf (year : Int) (month : Nat) : Int :=
  let late := Civil.days ⟨year, month, 25⟩
  late + daysToSunday late

/-- Summer time from the last Sunday of March to the last Sunday of October, both at 01:00 UTC. -/
def berlin : Zone where
  name := "Europe/Berlin"
  standard := 3600
  summer year :=
    if year < 1996 then []
    else [⟨lastSundayOf year 3 * 86400 + 3600, lastSundayOf year 10 * 86400 + 3600, 7200⟩]

/-- Summer time from the second Sunday of March to the first Sunday of November, at two o'clock. -/
def newYork : Zone where
  name := "America/New_York"
  standard := -18000
  summer year :=
    if year < 2007 then []
    else [⟨sundayOf year 3 2 * 86400 + 25200, sundayOf year 11 1 * 86400 + 21600, -14400⟩]

def kolkata : Zone := ⟨"Asia/Kolkata", 19800, fun _ => []⟩

/-- The last summer time began on the first Sunday of November 2018 and ended on the third of
February. -/
def saoPaulo : Zone where
  name := "America/Sao_Paulo"
  standard := -10800
  summer year :=
    if year = 2018 then
      [⟨sundayOf 2018 11 1 * 86400 + 10800, sundayOf 2019 2 3 * 86400 + 7200, -7200⟩]
    else []

def all : List Zone := [utc, berlin, newYork, kolkata, saoPaulo]

def ofName? (name : String) : Option Zone :=
  all.find? (·.name = name)

end Zone

end SelectBuilder
