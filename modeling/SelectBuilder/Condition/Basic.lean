import SelectBuilder.Condition.Registry

/-! Conditions on one field, and the lookup keys that name a field and an operator. -/
namespace SelectBuilder

/-- One field, operator and operand. The operator stays the one that its name had when the condition
was made. -/
structure Condition where
  field : String
  operatorName : String
  operator : Operator
  operand : Operand

namespace Condition

/-- Separates the field from the operator in a lookup key. -/
def separator : String := "__"

/-- Field, operator name and operator of a lookup key. If the text behind the last separator names
no operator, the whole key is a field. -/
def splitKey (registry : Registry) (key : String) : String × String × Operator :=
  let plain := (key, "eq", registry.default)
  match Text.cutLast? separator.toList key.toList with
  | some (field, name) =>
    let name := String.ofList name
    match registry.resolve? name with
    | some operator => (String.ofList field, name, operator)
    | none => plain
  | none => plain

def ofKey (registry : Registry) (key : String) (operand : Operand) : Condition :=
  let (field, name, operator) := splitKey registry key
  ⟨field, name, operator, operand⟩

def ofName (registry : Registry) (field name : String) (operand : Operand) :
    Except QueryError Condition :=
  match registry.resolve? name with
  | some operator => .ok ⟨field, name, operator, operand⟩
  | none => .error (.invalidArgument (.unknownOperator name))

def render (fields : FieldSet) (c : Condition) : Except QueryError String :=
  c.operator.render fields c.field c.operand

end Condition

end SelectBuilder
