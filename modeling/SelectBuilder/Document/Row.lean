import SelectBuilder.Document.Basic
import SelectBuilder.Entries

/-!
Rows of a result, one JSON object each. In a row every string has a text, every number a value, and
no value lies too deep.
-/
namespace SelectBuilder

attribute [local instance (high)] instPowNat

inductive Cell where
  | null
  | bool (b : Bool)
  | natural (n : UInt64)
  | integer (n : Int64)
  | float (x : Float)
  | text (s : String)
  | array (items : List Cell)
  | object (members : List (String × Cell))

/-- The cells of a row by name, the last one where a name is given twice. -/
abbrev Row := Entries Cell

namespace Cell

/-- How deep arrays and objects may lie in each other. -/
def maxDepth : Nat := 127

/-- A number with more digits behind it as long as it fits 64 bits, and how many digits are left
out. -/
def leading (acc : Nat) : List Char → Nat × Nat
  | [] => (acc, 0)
  | c :: rest =>
    let n := acc * 10 + (c.toNat - '0'.toNat)
    if n < 2 ^ (64 : Nat) then leading n rest else (acc, rest.length + 1)

/-- A power of ten that a float holds. -/
def power (n : Nat) : Float :=
  Float.ofScientific 1 false n

/-- The product `x * 10^e`, unless it is too large. Powers beyond the largest one divide in two
steps. -/
def scale? (x : Float) : Int → Option Float
  | .ofNat n =>
    if n ≤ 308 then
      let y := x * power n
      if y.isInf then none else some y
    else if x == 0 then some x
    else none
  | .negSucc n =>
    if n < 308 then some (x / power (n + 1))
    else if n < 616 then some (x / power 308 / power (n + 1 - 308))
    else some 0

/-- The float for digits before and behind the point and a power of ten. Only digits that fit 64
bits count; those left out before the point keep their places. -/
def number? (negative : Bool) (units places : List Char) (power : Int) : Option Cell :=
  let (whole, dropped) := leading 0 units
  let (significand, ignored) := leading whole places
  let exponent := power + dropped - (places.length - ignored : Nat)
  (scale? (UInt64.ofNat significand).toFloat exponent).map fun x =>
    .float (if negative then -x else x)

/-- A whole number; it becomes a float if it does not fit 64 bits, or is a negative zero. -/
def whole? (negative : Bool) (n : Nat) : Option Cell :=
  if negative then
    if n = 0 || 2 ^ (63 : Nat) < n then number? true (Nat.toDigits 10 n) [] 0 else
      some (.integer (Int64.ofInt (-n)))
  else if n < 2 ^ (64 : Nat) then some (.natural (UInt64.ofNat n))
  else number? false (Nat.toDigits 10 n) [] 0

mutual

/-- The value of a document that may be so deep. -/
def ofDocument? (depth : Nat) : Document → Option Cell
  | .null => some .null
  | .bool b => some (.bool b)
  | .whole negative n => whole? negative n
  | .real negative units places power => number? negative units places power
  | .string s => s.map .text
  | .array items =>
    if depth = 0 then none else (ofItems? (depth - 1) items).map .array
  | .object members =>
    if depth = 0 then none
    else (ofMembers? (depth - 1) members).map fun cells => .object (Entries.ofList cells).toList

def ofItems? (depth : Nat) : List Document → Option (List Cell)
  | [] => some []
  | item :: rest => do
    let cell ← ofDocument? depth item
    let cells ← ofItems? depth rest
    return cell :: cells

def ofMembers? (depth : Nat) : List (Option String × Document) → Option (List (String × Cell))
  | [] => some []
  | (key, item) :: rest => do
    let name ← key
    let cell ← ofDocument? depth item
    let cells ← ofMembers? depth rest
    return (name, cell) :: cells

end

end Cell

def Row.ofString? (s : String) : Option Row :=
  match Document.ofString? s with
  | some (.object members) => (Cell.ofMembers? (Cell.maxDepth - 1) members).map Entries.ofList
  | _ => none

end SelectBuilder
