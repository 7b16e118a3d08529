import SelectBuilder.Calendar.Date

/-!
Instants as seconds since the first of January 1970, UTC. A leap second follows its second and
shares its number, with at least a thousand million nanoseconds. Timestamps have them at the end of
a minute only; an offset from UTC that is no whole number of minutes moves them away from there.
-/
namespace SelectBuilder

/-- A date and a time of day in no particular time zone. -/
structure LocalTime where
  /-- Seconds since the first of January 1970 on the local clock. -/
  seconds : Int
  nanos : Nat
  deriving DecidableEq, Repr

namespace LocalTime

def date (t : LocalTime) : Civil :=
  Civil.ofDays (t.seconds / 86400)

/-- Hours, minutes and seconds. A leap second is written as the second behind its own, which is
second 60 at the end of a minute. -/
def clockText (t : LocalTime) : String :=
  let second := (t.seconds % 86400).toNat
  Civil.twoDigits (second / 3600) ++ ":" ++ Civil.twoDigits (second / 60 % 60) ++ ":" ++
    Civil.twoDigits (second % 60 + t.nanos / 1000000000)

def text (t : LocalTime) : String :=
  t.date.text ++ " " ++ t.clockText

def midnight (d : Civil) : LocalTime :=
  ⟨d.days * 86400, 0⟩

end LocalTime

/-- A point in time of the calendar's range. -/
structure Instant where
  seconds : Int
  nanos : Nat
  inRange : -8334601228800 ≤ seconds ∧ seconds ≤ 8210266876799
  isNanos : nanos < 2000000000
  deriving DecidableEq

namespace Instant

/-- The instant that a second and its nanoseconds make, a leap second after any second. -/
def at? (seconds : Int) (nanos : Nat) : Option Instant :=
  if h : (-8334601228800 ≤ seconds ∧ seconds ≤ 8210266876799) ∧ nanos < 2000000000 then
    some ⟨seconds, nanos, h.1, h.2⟩
  else none

/-- The instant of a timestamp with nanoseconds, a leap second only at the end of a minute. -/
def of? (seconds : Int) (nanos : Nat) : Option Instant :=
  if nanos < 1000000000 ∨ seconds % 60 = 59 then at? seconds nanos else none

def ofTimestamp? (seconds : Int) : Option Instant :=
  of? seconds 0

def epoch : Instant := ⟨0, 0, by decide, by decide⟩

def utc (t : Instant) : LocalTime :=
  ⟨t.seconds, t.nanos⟩

def text (t : Instant) : String :=
  t.utc.text

/-- Seconds with ten characters at least, the form of a date-time literal. -/
def timestampText (t : Instant) : String :=
  Numeral.paddedInt 10 t.seconds

end Instant

end SelectBuilder
