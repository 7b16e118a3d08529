import SelectBuilder.Query.Source

/-!
A data source over a list of rows. It keeps the statements that it was asked, and interprets nothing
of them but the window at the end.
-/
namespace SelectBuilder

attribute [local instance (high)] instPowNat

/-- Rows, and what the source answers instead of what it finds in them. -/
structure MemorySource (Row : Type) where
  rows : List Row
  selectFault : Option SourceFault := none
  countAnswer : Option (Except SourceFault UInt64) := none
  rawAnswer : Option (Except SourceFault (Option String)) := none

namespace MemorySource

/-- The statements so far, in their order. -/
abbrev Log := StateM (List String)

/-- What stands in front of a window. -/
def limitMark : String := "\nLIMIT "

/-- The window that the last LIMIT clause of a statement names. -/
def limits? (sql : String) : Option (Nat × Nat) := do
  let (_, window) ← Text.cutLast? limitMark.toList sql.toList
  let (offset, rest) ← Text.cutFirst? [',', ' '] window
  let offset ← (Numeral.nat (2 ^ (64 : Nat) - 1) offset).toOption
  let count ← (Numeral.nat (2 ^ (64 : Nat) - 1) (rest.takeWhile Char.isDigit)).toOption
  return (offset, count)

variable {Row : Type}

def window (source : MemorySource Row) (sql : String) : List Row :=
  match limits? sql with
  | some (offset, count) => (source.rows.drop offset).take count
  | none => source.rows

def record (statement : String) : Run Log Unit :=
  modify (· ++ [statement])

/-- A scripted answer, or the source's own. -/
def answer {α : Type} (script : Option (Except SourceFault α)) (own : α) : Run Log α :=
  Run.of ((script.getD (.ok own)).mapError .source)

/-- The statement that is kept of a count. -/
def countRecord (table conditions : String) : String :=
  "COUNT " ++ Text.identifier table ++ " WHERE " ++ conditions

def dataSource (source : MemorySource Row) : DataSource Log Row where
  select sql := do
    record sql
    answer (source.selectFault.map .error) (source.window sql)
  count table conditions := do
    record (countRecord table conditions)
    answer source.countAnswer (UInt64.ofNat source.rows.length)
  raw sql := do
    record sql
    answer source.rawAnswer (some (toString (source.window sql).length))

end MemorySource

end SelectBuilder
