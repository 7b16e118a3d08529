import SelectBuilder.Query.Basic

/-! Aggregations: groups of the rows of a query, with calculated columns. -/
namespace SelectBuilder

structure Aggregate where
  base : Query
  grouping : List String
  calculated : Entries String
  groupNames : List String
  withTotals : Bool

/-- The rows of a query in groups, with at least one calculated column. The fields of the query give
way to the columns of the aggregation. -/
def Query.aggregate (q : Query) (grouping : List String) (calculated : List (String × String)) :
    Except QueryError Aggregate :=
  let calculated := Entries.ofList calculated
  if calculated.isEmpty then .error (.invalidArgument .nothingCalculated)
  else .ok ⟨q.plain, grouping, calculated, grouping, false⟩

namespace Aggregate

def isColumn (a : Aggregate) (name : String) : Bool :=
  a.grouping.contains name || a.calculated.contains name

/-- Other names for the GROUP BY clause, columns of the aggregation all of them. -/
def groupBy (a : Aggregate) (names : List String) : Except QueryError Aggregate :=
  match names.find? (!a.isColumn ·) with
  | some name => .error (.invalidArgument (.notGroupable name))
  | none => .ok { a with groupNames := names }

/-- One more row with the totals over all groups. -/
def totals (a : Aggregate) : Aggregate :=
  { a with withTotals := true }

def withBase (a : Aggregate) (base : Query) : Aggregate :=
  { a with base }

def projection (a : Aggregate) : String :=
  Text.commaJoin (a.grouping ++
    a.calculated.toList.map fun (name, expression) => expression ++ " AS " ++ name)

def select (a : Aggregate) : Select where
  distinct := a.base.distinct
  projection := a.projection
  table := a.base.model.table
  isFinal := false
  prefilters := a.base.prefilters
  filters := a.base.filters
  groupBy := a.groupNames
  withTotals := a.withTotals
  ordering := a.base.ordering
  limits := a.base.limits

def sql (a : Aggregate) : Except QueryError String :=
  a.select.sql a.base.model.fields

def description (a : Aggregate) : String :=
  Describe.record "AggregateQuerySet" [
    ("base", a.base.description),
    ("grouping_fields", Describe.list (a.grouping.map Describe.string)),
    ("calculated_fields", Describe.mapping (a.calculated.toList.map fun (name, expression) =>
      (Describe.string name, Describe.string expression))),
    ("group_by", Describe.list (a.groupNames.map Describe.string)),
    ("with_totals", Describe.bool a.withTotals)]

def operand (a : Aggregate) : Operand :=
  .subquery ⟨a.sql, a.description⟩

def refine (a : Aggregate) (refinement : Query.Refinement) : Except QueryError Aggregate := do
  return a.withBase (← a.base.refine refinement)

inductive Step where
  | refine (refinement : Query.Refinement)
  | groupBy (names : List String)
  | totals
  | only (names : List String)
  | aggregate (grouping : List String) (calculated : List (String × String))

/-- The columns of an aggregation are settled, and it is not grouped again. -/
def apply (a : Aggregate) : Step → Except QueryError Aggregate
  | .refine refinement => a.refine refinement
  | .groupBy names => a.groupBy names
  | .totals => .ok a.totals
  | .only _ => .error (.unsupported .projection)
  | .aggregate .. => .error (.unsupported .reaggregation)

end Aggregate

end SelectBuilder
