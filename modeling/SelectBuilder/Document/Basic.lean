import SelectBuilder.Document.Text
import SelectBuilder.Number.Decimal

/-!
JSON documents, read strictly: one value with white space around it and nothing else. A number keeps
apart whether it was written as a whole number.
-/
namespace SelectBuilder

attribute [local instance (high)] instPowNat

inductive Document where
  | null
  | bool (b : Bool)
  | whole (negative : Bool) (n : Nat)
  /-- A number with its digits before and behind the point, and the power of ten that it is
  multiplied by. -/
  | real (negative : Bool) (units places : List Char) (power : Int)
  /-- A string, without its text if it has none. -/
  | string (s : Option String)
  | array (items : List Document)
  | object (members : List (Option String × Document))

namespace Document

def isSpace (c : Char) : Bool :=
  c = ' ' || c = '\n' || c = '\t' || c = '\r'

def skipSpace (s : List Char) : List Char :=
  s.dropWhile isSpace

def word? (word : String) (value : Document) (s : List Char) : Option (Document × List Char) :=
  (word.toList.isPrefixOf? s).map fun rest => (value, rest)

def string? (s : List Char) : Option (Option String × List Char) := do
  let (items, rest) ← stringItems? s
  return ((characters? items).map String.ofList, rest)

/-- Digits of which there has to be one. -/
def digits? (s : List Char) : Option (List Char × List Char) :=
  let (digits, rest) := s.span Char.isDigit
  if digits.isEmpty then none else some (digits, rest)

/-- The digits before the point; only the number zero starts with one. -/
def wholeDigits? : List Char → Option (List Char × List Char)
  | '0' :: rest => some (['0'], rest)
  | s => digits? s

def fraction? : List Char → Option (Option (List Char) × List Char)
  | '.' :: rest => (digits? rest).map fun (digits, rest) => (some digits, rest)
  | s => some (none, s)

def power? : List Char → Option (Option Int × List Char)
  | c :: rest =>
    if c = 'e' || c = 'E' then do
      let (negative, rest) := Decimal.takeSign rest
      let (digits, rest) ← digits? rest
      let n : Int := Decimal.ofDigits digits
      return (some (if negative then -n else n), rest)
    else some (none, c :: rest)
  | [] => some (none, [])

def number? (negative : Bool) (s : List Char) : Option (Document × List Char) := do
  let (units, s) ← wholeDigits? s
  let (places, s) ← fraction? s
  let (power, s) ← power? s
  match places, power with
  | none, none => return (.whole negative (Decimal.ofDigits units), s)
  | _, _ => return (.real negative units (places.getD []) (power.getD 0), s)

mutual

/-- A value at the front. The fuel bounds the number of steps. -/
def value? : Nat → List Char → Option (Document × List Char)
  | 0, _ => none
  | fuel + 1, s =>
    match skipSpace s with
    | '\x7b' :: rest =>
      match skipSpace rest with
      | '\x7d' :: rest => some (.object [], rest)
      | rest => (members? fuel rest).map fun (members, rest) => (.object members, rest)
    | '[' :: rest =>
      match skipSpace rest with
      | ']' :: rest => some (.array [], rest)
      | rest => (items? fuel rest).map fun (items, rest) => (.array items, rest)
    | '"' :: rest => (string? rest).map fun (s, rest) => (.string s, rest)
    | '-' :: rest => number? true rest
    | 'n' :: rest => word? "ull" .null rest
    | 't' :: rest => word? "rue" (.bool true) rest
    | 'f' :: rest => word? "alse" (.bool false) rest
    | s => number? false s

def items? : Nat → List Char → Option (List Document × List Char)
  | 0, _ => none
  | fuel + 1, s => do
    let (item, rest) ← value? fuel s
    match skipSpace rest with
    | ',' :: rest =>
      let (items, rest) ← items? fuel rest
      return (item :: items, rest)
    | ']' :: rest => return ([item], rest)
    | _ => none

def members? : Nat → List Char → Option (List (Option String × Document) × List Char)
  | 0, _ => none
  | fuel + 1, s => do
    let (key, rest) ← match skipSpace s with
      | '"' :: rest => string? rest
      | _ => none
    let (value, rest) ← match skipSpace rest with
      | ':' :: rest => value? fuel rest
      | _ => none
    match skipSpace rest with
    | ',' :: rest =>
      let (members, rest) ← members? fuel rest
      return ((key, value) :: members, rest)
    | '\x7d' :: rest => return ([(key, value)], rest)
    | _ => none

end

/-- The document that a text holds. Every two steps take a character, so the fuel lasts. -/
def ofString? (s : String) : Option Document := do
  let chars := s.toList
  let (value, rest) ← value? (2 * chars.length + 2) chars
  if (skipSpace rest).isEmpty then some value else none

/-- The values of the given keys among the members of an object. Every key has to have a text, and a
given key may stand there once. -/
def known? (keys : List String) : List (Option String × Document) →
    Option (List (String × Document))
  | [] => some []
  | (none, _) :: _ => none
  | (some key, value) :: rest => do
    let found ← known? keys rest
    if !keys.contains key then some found
    else if (List.lookup key found).isSome then none
    else some ((key, value) :: found)

/-- The values of the given keys in their order, from an object or from an array with one item for
each. -/
def fields? (keys : List String) : Document → Option (List (Option Document))
  | .object members => do
    let found ← known? keys members
    return keys.map fun key => List.lookup key found
  | .array items => if items.length = keys.length then some (items.map some) else none
  | _ => none

/-- A value that may be missing or null. -/
def optional? {α : Type} (read : Document → Option α) : Option Document → Option (Option α)
  | none | some .null => some none
  | some d => (read d).map some

def text? : Document → Option String
  | .string s => s
  | _ => none

def bool? : Document → Option Bool
  | .bool b => some b
  | _ => none

def uint64? : Document → Option UInt64
  | .whole false n => if n < 2 ^ (64 : Nat) then some (UInt64.ofNat n) else none
  | _ => none

end Document

end SelectBuilder
