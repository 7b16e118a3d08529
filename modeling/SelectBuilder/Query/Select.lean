import SelectBuilder.Condition.Basic
import SelectBuilder.Condition.Tree

/-! The parts of a SELECT statement and the statement they make, one clause a line. -/
namespace SelectBuilder

/-- A window of the result: how many rows are passed over, and how many follow at most. -/
structure Limits where
  offset : UInt64
  count : UInt64
  deriving DecidableEq, Repr

structure Select where
  distinct : Bool
  projection : String
  table : String
  isFinal : Bool
  prefilters : Tree Condition
  filters : Tree Condition
  groupBy : List String
  withTotals : Bool
  ordering : List String
  limits : Option Limits

/-- A name of an ordering; a dash in front asks for descending order. -/
def orderingTerm (name : String) : String :=
  match name.toList with
  | '-' :: rest => String.ofList rest ++ " DESC"
  | _ => name

def conditionsText (fields : FieldSet) (t : Tree Condition) : Except QueryError String :=
  t.render (Condition.render fields)

namespace Select

def selectLine (s : Select) : String :=
  "SELECT " ++ (if s.distinct then "DISTINCT " else "") ++ s.projection

def fromLine (s : Select) : String :=
  "FROM " ++ Text.identifier s.table ++ (if s.isFinal then " FINAL" else "")

/-- A clause of conditions, left out when there are none. -/
def conditionsLine (fields : FieldSet) (keyword : String) (t : Tree Condition) :
    Except QueryError (List String) :=
  if t.isEmpty then .ok [] else do return [keyword ++ " " ++ (← conditionsText fields t)]

def groupByLine (s : Select) : List String :=
  if s.groupBy.isEmpty then []
  else ["GROUP BY " ++ Text.commaJoin (s.groupBy.map Text.identifier) ++
    (if s.withTotals then " WITH TOTALS" else "")]

def orderByLine (s : Select) : List String :=
  if s.ordering.isEmpty then []
  else ["ORDER BY " ++ Text.commaJoin (s.ordering.map orderingTerm)]

def limitText (limits : Limits) : String :=
  "LIMIT " ++ toString limits.offset.toNat ++ ", " ++ toString limits.count.toNat

def limitLine (s : Select) : List String :=
  s.limits.toList.map limitText

/-- The clauses of the statement in their order, one a line. -/
def lines (fields : FieldSet) (s : Select) : Except QueryError (List String) := do
  let prefilters ← conditionsLine fields "PREWHERE" s.prefilters
  let filters ← conditionsLine fields "WHERE" s.filters
  return [s.selectLine, s.fromLine] ++ prefilters ++ filters ++ s.groupByLine ++ s.orderByLine ++
    s.limitLine

def sql (fields : FieldSet) (s : Select) : Except QueryError String := do
  return "\n".intercalate (← s.lines fields)

end Select

end SelectBuilder
