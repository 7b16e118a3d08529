/-!
Texts from bytes in UTF-8. A character takes one to four bytes, the first of which tells their
number; the second byte is bounded further where the character would have a shorter form, or would
be a surrogate, or would lie beyond the last character.
-/
namespace SelectBuilder

/-- Bytes that are no text: a wrong sequence, or one that the end cuts off. -/
inductive EncodingFault where
  | wrong (length index : Nat)
  | cutOff (index : Nat)
  deriving DecidableEq, Repr

def EncodingFault.message : EncodingFault → String
  | .wrong length index =>
    "invalid utf-8 sequence of " ++ toString length ++ " bytes from index " ++ toString index
  | .cutOff index => "incomplete utf-8 byte sequence from index " ++ toString index

namespace Text

/-- A character of which some bytes are read. -/
structure PartialChar where
  /-- The index of the first byte. -/
  start : Nat
  taken : Nat
  missing : Nat
  /-- What the bytes so far contribute. -/
  code : Nat
  /-- The bounds of the next byte. -/
  low : Nat := 0x80
  high : Nat := 0xBF
  deriving DecidableEq, Repr

namespace PartialChar

/-- The character that a byte above 0x7F begins. -/
def ofLead? (index lead : Nat) : Option PartialChar :=
  if 0xC2 ≤ lead ∧ lead ≤ 0xDF then
    some { start := index, taken := 1, missing := 1, code := lead - 0xC0 }
  else if 0xE0 ≤ lead ∧ lead ≤ 0xEF then
    some { start := index, taken := 1, missing := 2, code := lead - 0xE0
           low := if lead = 0xE0 then 0xA0 else 0x80
           high := if lead = 0xED then 0x9F else 0xBF }
  else if 0xF0 ≤ lead ∧ lead ≤ 0xF4 then
    some { start := index, taken := 1, missing := 3, code := lead - 0xF0
           low := if lead = 0xF0 then 0x90 else 0x80
           high := if lead = 0xF4 then 0x8F else 0xBF }
  else none

def accepts (p : PartialChar) (byte : Nat) : Bool :=
  p.low ≤ byte && byte ≤ p.high

/-- The code after one more byte. -/
def extend (p : PartialChar) (byte : Nat) : Nat :=
  p.code * 64 + (byte - 0x80)

/-- The character with one more byte read and others still missing. -/
def next (p : PartialChar) (byte : Nat) : PartialChar :=
  { start := p.start, taken := p.taken + 1, missing := p.missing - 1, code := p.extend byte }

end PartialChar

/-- The characters of the bytes from an index on, some bytes of the first character being read. -/
def decodeFrom (index : Nat) : Option PartialChar → List UInt8 → Except EncodingFault (List Char)
  | none, [] => .ok []
  | some p, [] => .error (.cutOff p.start)
  | none, b :: rest =>
    if b < 0x80 then (decodeFrom (index + 1) none rest).map (Char.ofNat b.toNat :: ·)
    else
      match PartialChar.ofLead? index b.toNat with
      | some p => decodeFrom (index + 1) (some p) rest
      | none => .error (.wrong 1 index)
  | some p, b :: rest =>
    if !p.accepts b.toNat then .error (.wrong p.taken p.start)
    else if p.missing ≤ 1 then
      (decodeFrom (index + 1) none rest).map (Char.ofNat (p.extend b.toNat) :: ·)
    else decodeFrom (index + 1) (some (p.next b.toNat)) rest

/-- The text of the bytes; the first sequence that is no character decides the fault. -/
def decodeUtf8 (bytes : List UInt8) : Except EncodingFault String :=
  (decodeFrom 0 none bytes).map String.ofList

end Text

end SelectBuilder
