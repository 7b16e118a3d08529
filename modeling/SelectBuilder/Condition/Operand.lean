import SelectBuilder.Error

/-! What a condition compares its field with. -/
namespace SelectBuilder

/-- A query inside a condition: the statement that it renders to, and its description. -/
structure Subquery where
  sql : Except QueryError String
  description : String

inductive Operand where
  | value (v : Value)
  /-- Inclusive bounds; a missing one leaves its side open. -/
  | range (low high : Option Value)
  /-- A fragment of a statement, taken as it is. -/
  | rawSql (sql : String)
  | subquery (query : Subquery)

namespace Operand

def kind : Operand → OperandKind
  | .value _ => .value
  | .range .. => .range
  | .rawSql _ => .rawSql
  | .subquery _ => .subquery

def between (low high : Value) : Operand :=
  .range (some low) (some high)

end Operand

end SelectBuilder
