import SelectBuilder.Condition.Operand
import SelectBuilder.Model

/-!
Operators: how a field and an operand become a condition. A literal is made by the type of the
field, and an operator that makes one fails for a field that the model does not have.
-/
namespace SelectBuilder

inductive Operator where
  /-- A binary comparison, with another form for comparing with null. -/
  | comparison (symbol : String) (nullForm : Option String)
  /-- One of several values, of the rows of a query, or of a fragment. -/
  | membership
  | negation (inner : Operator)
  /-- A pattern in which `{}` stands for the operand. -/
  | like (pattern : String) (caseSensitive : Bool)
  | caselessEqual
  /-- Inclusive bounds of which one may be missing. -/
  | between
  /-- An operator of the application. -/
  | custom (name : String)
      (render : FieldSet → String → Operand → Except QueryError String)

namespace Operator

/-- The value of an operand that is one, else the complaint of the operator. -/
def singleValue (operator : String) : Operand → Except QueryError Value
  | .value v => .ok v
  | operand => .error (.invalidArgument (.operandRefused operator operand.kind))

/-- Compares with the literal; the null form stands in for the literal of null. -/
def comparisonText (symbol : String) (nullForm : Option String) (field literal : String) : String :=
  match nullForm with
  | some form =>
    if literal = Value.nullLiteral then field ++ " " ++ form
    else field ++ " " ++ symbol ++ " " ++ literal
  | none => field ++ " " ++ symbol ++ " " ++ literal

/-- What stands between the parentheses of a membership test. -/
def members (fields : FieldSet) (field : String) : Operand → Except QueryError String
  | .value (.array items) => do return Text.commaJoin (← items.mapM (fields.literal field))
  | .value v => fields.literal field v
  | .rawSql sql => .ok sql
  | .subquery query => query.sql
  | .range .. => .error (.invalidArgument (.operandRefused "in" .range))

/-- The pattern of a LIKE condition, escaped for use inside quotes. -/
def likePattern (pattern : String) (fields : FieldSet) (field : String) (operand : Operand) :
    Except QueryError String := do
  let type ← fields.get field
  let raw ← singleValue "LIKE" operand
  let value ← FieldSet.normalize type field raw
  return Text.fill pattern (Text.likeBody (type.literal false value))

def likeText (caseSensitive : Bool) (field pattern : String) : String :=
  if caseSensitive then field ++ " LIKE '" ++ pattern ++ "'"
  else "lowerUTF8(" ++ field ++ ") LIKE lowerUTF8('" ++ pattern ++ "')"

/-- The bounds of a range or of an array of two. -/
def bounds : Operand → Except QueryError (Option Value × Option Value)
  | .range low high => .ok (low, high)
  | .value (.array [low, high]) => .ok (some low, some high)
  | operand => .error (.invalidArgument (.betweenShape operand.kind))

/-- Null and the empty text count as a missing bound. -/
def present (bound : Option Value) : Option Value :=
  bound.filter fun
    | .null => false
    | .string s => s ≠ ""
    | _ => true

/-- With one bound missing, a range is a one-sided comparison. -/
def betweenText (fields : FieldSet) (field : String) (low high : Option Value) :
    Except QueryError String :=
  match low, high with
  | some low, some high => do
    let low ← fields.literal field low
    let high ← fields.literal field high
    return field ++ " BETWEEN " ++ low ++ " AND " ++ high
  | some low, none => do return field ++ " >= " ++ (← fields.literal field low)
  | none, some high => do return field ++ " <= " ++ (← fields.literal field high)
  | none, none => .error (.invalidArgument (.noBound field))

def render (fields : FieldSet) (field : String) (operand : Operand) :
    Operator → Except QueryError String
  | .comparison symbol nullForm => do
    let raw ← singleValue symbol operand
    return comparisonText symbol nullForm field (← fields.literal field raw)
  | .membership => do return field ++ " IN (" ++ (← members fields field operand) ++ ")"
  | .negation inner => do return "NOT (" ++ (← inner.render fields field operand) ++ ")"
  | .like pattern caseSensitive => do
    return likeText caseSensitive field (← likePattern pattern fields field operand)
  | .caselessEqual => do
    let raw ← singleValue "iexact" operand
    return "lowerUTF8(" ++ field ++ ") = lowerUTF8(" ++ (← fields.literal field raw) ++ ")"
  | .between => do
    let (low, high) ← bounds operand
    betweenText fields field (present low) (present high)
  | .custom _ render => render fields field operand

end Operator

end SelectBuilder
