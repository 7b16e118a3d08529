import SelectBuilder.Number.Numeral
import SelectBuilder.Text.Blank
import SelectBuilder.Text.Fragment

/-!
Addresses of servers: a scheme, a host with an optional port, and a path. What an address asks or
marks behind its path is left out.
-/
namespace SelectBuilder

structure Address where
  scheme : String
  host : String
  path : String
  deriving DecidableEq, Repr

namespace Address

/-- Schemes that always have a host, and in which a backslash is a slash. -/
def hierarchical : List String := ["http", "https", "ws", "wss", "ftp"]

/-- The text without what an address may have around it or broken lines put into it. -/
def clean (s : List Char) : List Char :=
  let outer (c : Char) : Bool := c ≤ ' '
  (Text.dropEndWhile outer (s.dropWhile outer)).filter fun c => c ≠ '\t' && c ≠ '\n' && c ≠ '\r'

def isSchemeChar (c : Char) : Bool :=
  c.isAlphanum || c = '+' || c = '-' || c = '.'

def scheme? (s : List Char) : Option (String × List Char) :=
  match Text.cutFirst? [':'] s with
  | some (c :: more, rest) =>
    if c.isAlpha && more.all isSchemeChar then
      some (Text.lowerAscii (String.ofList (c :: more)), rest)
    else none
  | _ => none

/-- What follows the slashes in front of a host. -/
def authority? (scheme : String) (s : List Char) : Option (List Char) :=
  if hierarchical.contains scheme then some (s.dropWhile (· = '/'))
  else ['/', '/'].isPrefixOf? s

/-- Characters that no host has. -/
def isForbidden (c : Char) : Bool :=
  c ≤ ' ' || c = '\x7f' || "#/<>?@[\\]^|%".toList.contains c

def isPort (s : List Char) : Bool :=
  s.isEmpty || (s.all Char.isDigit && (Numeral.nat 65535 s).toBool)

/-- A host, which may be a number of groups in brackets, and the port behind it. -/
def host? (s : List Char) : Option (List Char) := do
  let (host, port) ←
    match s with
    | '[' :: inner => do
      let (groups, rest) ← Text.cutFirst? [']'] inner
      if groups.isEmpty || !groups.all fun c =>
        "0123456789abcdefABCDEF:.".toList.contains c then none
      else some ('[' :: groups ++ [']'], rest)
    | _ =>
      let (host, rest) := s.span (· ≠ ':')
      if host.isEmpty || host.any isForbidden then none else some (host, rest)
  match port with
  | [] => some host
  | ':' :: digits => if isPort digits then some host else none
  | _ => none

def afterLast (mark : Char) (s : List Char) : List Char :=
  match Text.cutLast? [mark] s with
  | some (_, rest) => rest
  | none => s

def hexByte (b : UInt8) : List Char :=
  [Nat.digitChar (b.toNat / 16), Nat.digitChar (b.toNat % 16)].map Char.toUpper

/-- A character of a path; controls, marks and characters beyond ASCII are written as bytes. -/
def pathChar (c : Char) : List Char :=
  if c ≤ ' ' || '\x7f' ≤ c || "\"#<>?`\x7b\x7d".toList.contains c then
    (String.utf8EncodeChar c).flatMap fun b => '%' :: hexByte b
  else [c]

def isDot (segment : String) : Bool :=
  [".", "%2e"].contains (Text.lowerAscii segment)

def isDoubleDot (segment : String) : Bool :=
  ["..", ".%2e", "%2e.", "%2e%2e"].contains (Text.lowerAscii segment)

/-- The segments of a path below those that are done, the last of which stands first. -/
def segments (done : List String) : List String → List String
  | [] => done.reverse
  | [last] =>
    if isDoubleDot last then ("" :: done.tail).reverse
    else if isDot last then ("" :: done).reverse
    else (String.ofList (last.toList.flatMap pathChar) :: done).reverse
  | segment :: rest =>
    if isDoubleDot segment then segments done.tail rest
    else if isDot segment then segments done rest
    else segments (String.ofList (segment.toList.flatMap pathChar) :: done) rest

/-- The path of an address, without places that lead back up. -/
def pathText (s : List Char) : String :=
  match s with
  | _ :: rest => "/" ++ "/".intercalate (segments [] ((String.ofList rest).splitOn "/"))
  | [] => "/"

def ofString? (s : String) : Option Address := do
  let (scheme, rest) ← scheme? (clean s.toList)
  let (place, _) := rest.span fun c => c ≠ '?' && c ≠ '#'
  let place := if hierarchical.contains scheme then
      place.map fun c => if c = '\\' then '/' else c
    else place
  let rest ← authority? scheme place
  let (authority, rest) := rest.span (· ≠ '/')
  let host ← host? (afterLast '@' authority)
  return ⟨scheme, String.ofList host, pathText rest⟩

end Address

end SelectBuilder
