/-!
Decimal numerals of whole numbers. Reading goes from left to right and stops at the first character
that is no digit, or at the first digit that carries the number past its bound.
-/
namespace SelectBuilder

attribute [local instance (high)] instPowNat

/-- Why a text is no numeral of the wanted size. -/
inductive NumeralFault where
  | empty
  | invalidDigit
  | tooLarge
  | tooSmall
  deriving DecidableEq, Repr

def NumeralFault.message : NumeralFault → String
  | .empty => "cannot parse integer from empty string"
  | .invalidDigit => "invalid digit found in string"
  | .tooLarge => "number too large to fit in target type"
  | .tooSmall => "number too small to fit in target type"

namespace Numeral

def digit? (c : Char) : Option Nat :=
  if c.isDigit then some (c.toNat - '0'.toNat) else none

/-- Digits after those that make up `acc`, as long as the number stays within `limit`. -/
def digits (limit acc : Nat) : List Char → Except NumeralFault Nat
  | [] => .ok acc
  | c :: rest =>
    match digit? c with
    | none => .error .invalidDigit
    | some d =>
      if acc * 10 + d ≤ limit then digits limit (acc * 10 + d) rest else .error .tooLarge

/-- A magnitude: at least one digit, within `limit`. -/
def magnitude (limit : Nat) (s : List Char) : Except NumeralFault Nat :=
  if s.isEmpty then .error .invalidDigit else digits limit 0 s

/-- A number from 0 to `limit`; a plus sign may lead. -/
def nat (limit : Nat) : List Char → Except NumeralFault Nat
  | [] => .error .empty
  | '+' :: rest => magnitude limit rest
  | s => magnitude limit s

/-- A number from `-2^(bits-1)` to `2^(bits-1) - 1`; either sign may lead. -/
def int (bits : Nat) : List Char → Except NumeralFault Int
  | [] => .error .empty
  | '-' :: rest =>
    match magnitude (2 ^ (bits - 1)) rest with
    | .ok n => .ok (-(n : Int))
    | .error .tooLarge => .error .tooSmall
    | .error fault => .error fault
  | '+' :: rest => (magnitude (2 ^ (bits - 1) - 1) rest).map Int.ofNat
  | s => (magnitude (2 ^ (bits - 1) - 1) s).map Int.ofNat

def uint64 (s : String) : Except NumeralFault UInt64 :=
  (nat (2 ^ (64 : Nat) - 1) s.toList).map UInt64.ofNat

/-- The digits of a number, with zeros in front up to a width. -/
def padded (width n : Nat) : List Char :=
  (Nat.toDigits 10 n).leftpad width '0'

/-- A number with zeros between its sign and its digits; the width counts the sign. -/
def paddedInt (width : Nat) : Int → String
  | .ofNat n => String.ofList (padded width n)
  | .negSucc n => String.ofList ('-' :: padded (width - 1) (n + 1))

end Numeral

end SelectBuilder
