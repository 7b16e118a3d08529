import SelectBuilder.Query.Aggregate
import SelectBuilder.Query.Page

/-!
Running queries. A data source takes statements; what a query asks it, and in which order, does not
depend on the source.
-/
namespace SelectBuilder

/-- A computation with a data source that may fail. -/
abbrev Run (m : Type → Type) := ExceptT QueryError m

structure DataSource (m : Type → Type) (Row : Type) where
  select : String → Run m (List Row)
  count : (table conditions : String) → Run m UInt64
  raw : String → Run m (Option String)

variable {m : Type → Type} [Monad m] {Row α : Type}

def Run.of (result : Except QueryError α) : Run m α :=
  ExceptT.mk (pure result)

/-- Reads rows one by one; the first that cannot be read decides. -/
def decodeRows (decode : Row → Except String α) (rows : List Row) : Except QueryError (List α) :=
  rows.mapM fun row => (decode row).mapError .decode

namespace DataSource

def fetch (source : DataSource m Row) (decode : Row → Except String α) (sql : String) :
    Run m (List α) := do
  Run.of (decodeRows decode (← source.select sql))

/-- The statement that counts the rows of another one. -/
def countStatement (sql : String) : String :=
  "SELECT count() FROM (" ++ sql ++ ")"

/-- The number that a counting statement answers; no answer counts as none. -/
def readCount : Option String → Except QueryError UInt64
  | none => .ok 0
  | some answer =>
    match Numeral.uint64 (Text.trim answer) with
    | .ok n => .ok n
    | .error _ => .error (.source (.countNotInteger answer))

def countRows (source : DataSource m Row) (sql : String) : Run m UInt64 := do
  Run.of (readCount (← source.raw (countStatement sql)))

/-- A page of something that can be counted, and fetched inside a window. -/
def paginate (count : Run m UInt64) (fetch : Limits → Run m (List α)) (number : Int64)
    (size : UInt64) : Run m (Page α) := do
  if size = 0 then throw (.invalidArgument .emptyPage)
  let total ← count
  let window ← Run.of (PageWindow.resolve number size total)
  let objects ← fetch ⟨window.offset, size⟩
  return window.page objects total size

end DataSource

namespace Query

def fetch (q : Query) (source : DataSource m Row) (decode : Row → Except String α) :
    Run m (List α) := do
  source.fetch decode (← Run.of q.sql)

def get (q : Query) (source : DataSource m Row) (decode : Row → Except String α) (index : Int64) :
    Run m α := do
  if index < 0 then throw (.invalidArgument .negativeIndex)
  match ← (q.withLimits ⟨index.toUInt64, 1⟩).fetch source decode with
  | row :: _ => return row
  | [] => throw (.doesNotExist index.toUInt64)

/-- The number of rows. A query with a window or without repetitions is counted as a statement, any
other by its conditions. -/
def count (q : Query) (source : DataSource m Row) : Run m UInt64 := do
  if q.distinct || q.limits.isSome then source.countRows (← Run.of q.sql)
  else
    let conditions ← Run.of (conditionsText q.model.fields (q.filters.and q.prefilters))
    source.count q.model.table conditions

def hasRows (q : Query) (source : DataSource m Row) : Run m Bool := do
  return 0 < (← q.count source)

def paginate (q : Query) (source : DataSource m Row) (decode : Row → Except String α)
    (number : Int64) (size : UInt64) : Run m (Page α) :=
  DataSource.paginate (q.count source) (fun limits => (q.withLimits limits).fetch source decode)
    number size

end Query

namespace Aggregate

def fetch (a : Aggregate) (source : DataSource m Row) (decode : Row → Except String α) :
    Run m (List α) := do
  source.fetch decode (← Run.of a.sql)

def count (a : Aggregate) (source : DataSource m Row) : Run m UInt64 := do
  source.countRows (← Run.of a.sql)

def paginate (a : Aggregate) (source : DataSource m Row) (decode : Row → Except String α)
    (number : Int64) (size : UInt64) : Run m (Page α) :=
  DataSource.paginate (a.count source)
    (fun limits => (a.withBase (a.base.withLimits limits)).fetch source decode) number size

end Aggregate

end SelectBuilder
