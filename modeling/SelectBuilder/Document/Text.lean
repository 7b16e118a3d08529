/-!
Strings of JSON documents. An escape may stand for one half of a surrogate pair; a half without its
partner is no character, and a string that holds one has a form but no text.
-/
namespace SelectBuilder.Document

/-- A character of a string, or a unit of 16 bits that was written as a number. -/
inductive StringItem where
  | char (c : Char)
  | unit (n : Nat)
  deriving DecidableEq, Repr

/-- The characters behind a backslash that stand for one character, and that character. -/
def simpleEscape? : Char → Option Char
  | '"' => some '"'
  | '\\' => some '\\'
  | '/' => some '/'
  | 'b' => some '\x08'
  | 'f' => some '\x0c'
  | 'n' => some '\n'
  | 'r' => some '\r'
  | 't' => some '\t'
  | _ => none

def hexDigit? (c : Char) : Option Nat :=
  if c.isDigit then some (c.toNat - '0'.toNat)
  else if 'a' ≤ c ∧ c ≤ 'f' then some (c.toNat - 'a'.toNat + 10)
  else if 'A' ≤ c ∧ c ≤ 'F' then some (c.toNat - 'A'.toNat + 10)
  else none

/-- The unit that four hexadecimal digits name. -/
def unit? (a b c d : Char) : Option Nat := do
  return (((← hexDigit? a) * 16 + (← hexDigit? b)) * 16 + (← hexDigit? c)) * 16 + (← hexDigit? d)

/-- The items of a string up to its closing quote, and what follows the quote. -/
def stringItems? : List Char → Option (List StringItem × List Char)
  | '"' :: rest => some ([], rest)
  | '\\' :: 'u' :: a :: b :: c :: d :: rest => do
    let n ← unit? a b c d
    let (items, rest) ← stringItems? rest
    return (.unit n :: items, rest)
  | '\\' :: e :: rest => do
    let c ← simpleEscape? e
    let (items, rest) ← stringItems? rest
    return (.char c :: items, rest)
  | c :: rest =>
    if c < ' ' then none
    else do
      let (items, rest) ← stringItems? rest
      return (.char c :: items, rest)
  | [] => none

def isHigh (n : Nat) : Bool := 0xD800 ≤ n && n < 0xDC00

def isLow (n : Nat) : Bool := 0xDC00 ≤ n && n < 0xE000

/-- The text of a string, unless half of a pair stands alone. -/
def characters? : List StringItem → Option (List Char)
  | [] => some []
  | .char c :: rest => (characters? rest).map (c :: ·)
  | .unit n :: .unit k :: rest =>
    if isHigh n && isLow k then
      (characters? rest).map (Char.ofNat (0x10000 + (n - 0xD800) * 0x400 + (k - 0xDC00)) :: ·)
    else if isHigh n || isLow n then none
    else (characters? (.unit k :: rest)).map (Char.ofNat n :: ·)
  | .unit n :: rest =>
    if isHigh n || isLow n then none else (characters? rest).map (Char.ofNat n :: ·)

end SelectBuilder.Document
