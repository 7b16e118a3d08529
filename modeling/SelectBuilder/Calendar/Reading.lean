import SelectBuilder.Calendar.Instant
import SelectBuilder.Text.Blank

/-!
Texts of dates and times. Three forms are read: a date, a date with a time of day, and the internet
form with an offset from UTC. Each function takes its part from the front of a text and returns the
rest.
-/
namespace SelectBuilder.Reading

attribute [local instance (high)] instPowNat

def leadingDigits (most : Nat) (s : List Char) : List Char :=
  (s.take most).takeWhile Char.isDigit

def number? (most : Nat) (s : List Char) : Option (Nat × List Char) :=
  let digits := leadingDigits most s
  if digits.isEmpty then none else some (Nat.ofDigitChars 10 digits 0, s.drop digits.length)

def fixed? (count : Nat) (s : List Char) : Option (Nat × List Char) :=
  let digits := leadingDigits count s
  if digits.length = count then some (Nat.ofDigitChars 10 digits 0, s.drop count) else none

def mark? (c : Char) : List Char → Option (List Char)
  | d :: rest => if d = c then some rest else none
  | [] => none

def skipBlanks (s : List Char) : List Char :=
  s.dropWhile Text.isBlank

/-- One to four digits, or a sign and any number of digits. -/
def year? (s : List Char) : Option (Int × List Char) :=
  match skipBlanks s with
  | '-' :: rest => (number? rest.length rest).map fun (n, r) => (-(n : Int), r)
  | '+' :: rest => (number? rest.length rest).map fun (n, r) => ((n : Int), r)
  | rest => (number? 4 rest).map fun (n, r) => ((n : Int), r)

/-- Year, month and day with dashes; white space may stand before each number. -/
def civil? (s : List Char) : Option (Civil × List Char) := do
  let (year, s) ← year? s
  let s ← mark? '-' s
  let (month, s) ← number? 2 (skipBlanks s)
  let s ← mark? '-' s
  let (day, s) ← number? 2 (skipBlanks s)
  return (⟨year, month, day⟩, s)

/-- A time of day in seconds and nanoseconds. Second 60 is a leap second. -/
def timeOfDay? (hour minute second nanos : Nat) : Option (Nat × Nat) :=
  if hour < 24 && minute < 60 && second ≤ 60 then
    if second = 60 then some (hour * 3600 + minute * 60 + 59, nanos + 1000000000)
    else some (hour * 3600 + minute * 60 + second, nanos)
  else none

/-- Hours, minutes and seconds with colons; white space may stand before each number. -/
def clock? (s : List Char) : Option ((Nat × Nat) × List Char) := do
  let (hour, s) ← number? 2 (skipBlanks s)
  let s ← mark? ':' s
  let (minute, s) ← number? 2 (skipBlanks s)
  let s ← mark? ':' s
  let (second, s) ← number? 2 (skipBlanks s)
  let time ← timeOfDay? hour minute second 0
  return (time, s)

def atEnd (s : List Char) : Option Unit :=
  if s.isEmpty then some () else none

def date? (s : List Char) : Option Date := do
  let (c, s) ← civil? s
  atEnd s
  Date.ofCivil? c

/-- A local time, its date being one of the calendar. -/
def onDate? (c : Civil) (time : Nat × Nat) : Option LocalTime := do
  let d ← Date.ofCivil? c
  return ⟨d.days * 86400 + time.1, time.2⟩

/-- A date and a time of day, with or without white space between them. -/
def localTime? (s : List Char) : Option LocalTime := do
  let (c, s) ← civil? s
  let (time, s) ← clock? s
  atEnd s
  onDate? c time

/-- The digits behind the seconds as nanoseconds; those after the ninth count for nothing. -/
def fraction? (s : List Char) : Option (Nat × List Char) :=
  match s with
  | '.' :: rest =>
    let digits := rest.takeWhile Char.isDigit
    if digits.isEmpty then none
    else some (Nat.ofDigitChars 10 (digits.take 9) 0 * 10 ^ (9 - digits.length),
      rest.drop digits.length)
  | _ => some (0, s)

/-- An offset from UTC in seconds: the letter Z, or a sign with hours and minutes. The minus sign
may be the typographic one. -/
def offset? : List Char → Option (Int × List Char)
  | c :: s =>
    if c = 'Z' || c = 'z' then some (0, s)
    else if c = '+' || c = '-' || c = '\u2212' then do
      let (hours, s) ← fixed? 2 s
      let s ← mark? ':' s
      let (minutes, s) ← fixed? 2 s
      if hours < 24 && minutes < 60 then
        let seconds : Int := hours * 3600 + minutes * 60
        some (if c = '+' then seconds else -seconds, s)
      else none
    else none
  | [] => none

/-- The separator of the internet form between date and time. -/
def isSeparator (c : Char) : Bool :=
  c = 'T' || c = 't' || c = ' '

/-- The internet form: every number has its full width, and the offset from UTC is part of the
text. -/
def internet? (s : List Char) : Option Instant := do
  let (year, s) ← fixed? 4 s
  let s ← mark? '-' s
  let (month, s) ← fixed? 2 s
  let s ← mark? '-' s
  let (day, s) ← fixed? 2 s
  let c ← s.head?
  if !isSeparator c then none
  let (hour, s) ← fixed? 2 s.tail
  let s ← mark? ':' s
  let (minute, s) ← fixed? 2 s
  let s ← mark? ':' s
  let (second, s) ← fixed? 2 s
  let (nanos, s) ← fraction? s
  let (offset, s) ← offset? s
  atEnd s
  let t ← onDate? ⟨year, month, day⟩ (← timeOfDay? hour minute second nanos)
  Instant.at? (t.seconds - offset) t.nanos

end SelectBuilder.Reading
