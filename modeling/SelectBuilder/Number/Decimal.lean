import SelectBuilder.Number.Numeral
import SelectBuilder.Text.Blank

/-!
Reading floats. A decimal is a sign, digits with at most one point among or around them, and an
optional power of ten; `inf`, `infinity` and `nan` are read in any case.
-/
namespace SelectBuilder

inductive Decimal where
  | notANumber
  | infinite (negative : Bool)
  /-- The number `digits * 10^exponent` with its sign. -/
  | finite (negative : Bool) (digits : Nat) (exponent : Int)
  deriving DecidableEq, Repr

namespace Decimal

def ofDigits (s : List Char) : Nat :=
  Nat.ofDigitChars 10 s 0

def takeSign : List Char → Bool × List Char
  | '-' :: rest => (true, rest)
  | '+' :: rest => (false, rest)
  | s => (false, s)

/-- The power of ten at the end of a number, 0 if there is none. -/
def exponent? : List Char → Option Int
  | [] => some 0
  | c :: rest =>
    if c = 'e' || c = 'E' then
      let (negative, digits) := takeSign rest
      if digits.isEmpty || !digits.all Char.isDigit then none
      else some (if negative then -(ofDigits digits : Int) else ofDigits digits)
    else none

/-- Digits before and after a point, at least one of them, and a power of ten. -/
def unsigned? (negative : Bool) (s : List Char) : Option Decimal :=
  let (whole, rest) := s.span Char.isDigit
  let (fraction, rest) :=
    match rest with
    | '.' :: more => more.span Char.isDigit
    | _ => ([], rest)
  if whole.isEmpty && fraction.isEmpty then none
  else (exponent? rest).map fun e =>
    .finite negative (ofDigits (whole ++ fraction)) (e - fraction.length)

/-- A decimal, the whole text. -/
def ofString? (s : String) : Option Decimal :=
  let (negative, rest) := takeSign s.toList
  match Text.lowerAscii (String.ofList rest) with
  | "nan" => some .notANumber
  | "inf" | "infinity" => some (.infinite negative)
  | _ => unsigned? negative rest

/-- Whether a number is far below the least or far above the largest float with `bound` decimal
places. -/
def beyond (bound : Nat) (digits : Nat) (exponent : Int) : Ordering :=
  let leading := (Nat.toDigits 10 digits).length + exponent
  if digits = 0 || leading < -bound then .lt else if bound < leading then .gt else .eq

def infinity : Float := 1.0 / 0.0

def toFloat : Decimal → Float
  | .notANumber => 0.0 / 0.0
  | .infinite negative => if negative then -infinity else infinity
  | .finite negative digits exponent =>
    let x :=
      match beyond 400 digits exponent with
      | .lt => 0.0
      | .gt => infinity
      | .eq => Float.ofScientific digits (exponent < 0) exponent.natAbs
    if negative then -x else x

/-- The nearest float of 32 bits, as one of 64 bits. -/
def toNarrowFloat : Decimal → Float
  | .finite negative digits exponent =>
    let x : Float :=
      match beyond 60 digits exponent with
      | .lt => 0.0
      | .gt => infinity
      | .eq => (Float32.ofScientific digits (exponent < 0) exponent.natAbs).toFloat
    if negative then -x else x
  | d => d.toFloat

end Decimal

end SelectBuilder
