import SelectBuilder.Condition.Description
import SelectBuilder.Query.Slice

/-! Queries over one model. Every operation gives a new query and leaves the old one as it is. -/
namespace SelectBuilder

/-- A selection of rows. An empty list of fields stands for all of them. -/
structure Query where
  model : Model
  ordering : List String
  filters : Tree Condition
  prefilters : Tree Condition
  fields : List String
  limits : Option Limits
  distinct : Bool
  isFinal : Bool

namespace Query

def all (model : Model) : Query :=
  ⟨model, [], .empty, .empty, [], none, false, false⟩

def filter (q : Query) (t : Tree Condition) : Query :=
  { q with filters := q.filters.and t }

def exclude (q : Query) (t : Tree Condition) : Query :=
  { q with filters := q.filters.and t.not }

/-- The rows that meet the conditions, which are checked before other columns are read. -/
def prefilter (q : Query) (t : Tree Condition) : Query :=
  { q with prefilters := q.prefilters.and t }

/-- The rows that do not meet the conditions, which are checked before other columns are read. -/
def preexclude (q : Query) (t : Tree Condition) : Query :=
  { q with prefilters := q.prefilters.and t.not }

/-- Another order; a dash in front of a name asks for descending order. -/
def orderBy (q : Query) (names : List String) : Query :=
  { q with ordering := names }

def only (q : Query) (names : List String) : Query :=
  { q with fields := names }

def withDistinct (q : Query) : Query :=
  { q with distinct := true }

/-- Rows as they are after merges, for engines that have such rows. -/
def final (q : Query) : Except QueryError Query :=
  if q.model.engine.supportsFinal then .ok { q with isFinal := true }
  else .error (.unsupported (.final q.model.engine q.model.table))

def withLimits (q : Query) (limits : Limits) : Query :=
  { q with limits := some limits }

def slice (q : Query) (start stop : Bound) : Except QueryError Query := do
  return q.withLimits (← Limits.ofBounds start stop)

/-- All fields, and rows as they are stored. -/
def plain (q : Query) : Query :=
  { q with fields := [], isFinal := false }

def projection (q : Query) : String :=
  if q.fields.isEmpty then "*" else Text.commaJoin (q.fields.map Text.identifier)

def select (q : Query) : Select where
  distinct := q.distinct
  projection := q.projection
  table := q.model.table
  isFinal := q.isFinal
  prefilters := q.prefilters
  filters := q.filters
  groupBy := []
  withTotals := false
  ordering := q.ordering
  limits := q.limits

def sql (q : Query) : Except QueryError String :=
  q.select.sql q.model.fields

def description (q : Query) : String :=
  Describe.openRecord "QuerySet" [
    ("table", Describe.string q.model.table),
    ("ordering", Describe.list (q.ordering.map Describe.string)),
    ("where_q", q.filters.description),
    ("prewhere_q", q.prefilters.description),
    ("fields", Describe.list (q.fields.map Describe.string)),
    ("limits", Describe.option (q.limits.map fun limits =>
      Describe.call "" [toString limits.offset.toNat, toString limits.count.toNat])),
    ("distinct", Describe.bool q.distinct),
    ("is_final", Describe.bool q.isFinal)]

def operand (q : Query) : Operand :=
  .subquery ⟨q.sql, q.description⟩

/-- An operation that queries share with aggregations. -/
inductive Refinement where
  | filter (t : Tree Condition)
  | exclude (t : Tree Condition)
  | prefilter (t : Tree Condition)
  | preexclude (t : Tree Condition)
  | orderBy (names : List String)
  | distinct
  | slice (start stop : Bound)

def refine (q : Query) : Refinement → Except QueryError Query
  | .filter t => .ok (q.filter t)
  | .exclude t => .ok (q.exclude t)
  | .prefilter t => .ok (q.prefilter t)
  | .preexclude t => .ok (q.preexclude t)
  | .orderBy names => .ok (q.orderBy names)
  | .distinct => .ok q.withDistinct
  | .slice start stop => q.slice start stop

inductive Step where
  | refine (refinement : Refinement)
  | only (names : List String)
  | final

def apply (q : Query) : Step → Except QueryError Query
  | .refine refinement => q.refine refinement
  | .only names => .ok (q.only names)
  | .final => q.final

end Query

end SelectBuilder
