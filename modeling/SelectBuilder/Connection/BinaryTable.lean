import SelectBuilder.Error

/-!
Tables in bytes. The header gives the number of columns, their names and their types; sizes come in
groups of seven bits, the lowest first.
-/
namespace SelectBuilder.BinaryTable

/-- A size and what follows it, unless the bytes end in the middle. -/
def size? : List UInt8 → Option (Nat × List UInt8)
  | [] => none
  | b :: rest =>
    if b < 0x80 then some (b.toNat, rest)
    else (size? rest).map fun (n, rest) => (b.toNat - 0x80 + 0x80 * n, rest)

def name? (bytes : List UInt8) : Option (List UInt8 × List UInt8) := do
  let (n, rest) ← size? bytes
  if rest.length < n then none else some (rest.take n, rest.drop n)

def names? : Nat → List UInt8 → Option (List (List UInt8) × List UInt8)
  | 0, bytes => some ([], bytes)
  | n + 1, bytes => do
    let (name, rest) ← name? bytes
    let (names, rest) ← names? n rest
    return (name :: names, rest)

/-- The types of the columns, and the rows. -/
def header? (bytes : List UInt8) : Option (List (List UInt8) × List UInt8) := do
  let (columns, rest) ← size? bytes
  let (_, rest) ← names? columns rest
  names? columns rest

def word (bytes : List UInt8) : UInt64 :=
  bytes.foldr (fun b n => n * 256 + b.toUInt64) 0

def numberType : List UInt8 :=
  "UInt64".toList.map fun c => UInt8.ofNat c.toNat

/-- The number in the first row of a table with one column of numbers. -/
def number (bytes : List UInt8) : Except DatabaseFault UInt64 :=
  match header? bytes with
  | none => .error (.badResponse "Could not read columns header")
  | some ([], _) => .error (.other "expected at least one column in the header")
  | some ([type], rows) =>
    if type ≠ numberType then .error (.schema "the column is no UInt64")
    else if rows.isEmpty then .error .rowNotFound
    else if rows.length < 8 then .error .notEnoughData
    else .ok (word (rows.take 8))
  | some (_ :: _ :: _, _) => .error (.schema "more than one column")

end SelectBuilder.BinaryTable
