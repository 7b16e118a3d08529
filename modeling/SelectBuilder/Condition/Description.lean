import SelectBuilder.Condition.Basic
import SelectBuilder.Condition.Tree
import SelectBuilder.Text.Description

/-! Descriptions of values, operators, conditions and trees. -/
namespace SelectBuilder

/-- Date and time of day in UTC, with as many groups of three decimals as the instant has. -/
def Instant.description (t : Instant) : String :=
  let nanos := t.nanos % 1000000000
  let fraction :=
    if nanos = 0 then []
    else if nanos % 1000000 = 0 then '.' :: Numeral.padded 3 (nanos / 1000000)
    else if nanos % 1000 = 0 then '.' :: Numeral.padded 6 (nanos / 1000)
    else '.' :: Numeral.padded 9 nanos
  t.utc.date.text ++ "T" ++ t.utc.clockText ++ String.ofList fraction ++ "Z"

namespace Value

mutual

def description : Value → String
  | .null => "Null"
  | .bool b => Describe.call "Bool" [Describe.bool b]
  | .int n => Describe.call "Int" [toString n.toInt]
  | .uint n => Describe.call "UInt" [toString n.toNat]
  | .float x => Describe.call "Float" [FloatStyle.description.render x]
  | .string s => Describe.call "String" [Describe.string s]
  | .date d => Describe.call "Date" [d.text]
  | .dateTime t => Describe.call "DateTime" [t.description]
  | .array items => Describe.call "Array" [Describe.list (descriptions items)]

def descriptions : List Value → List String
  | [] => []
  | item :: rest => description item :: descriptions rest

end

end Value

def Operand.description : Operand → String
  | .value v => Describe.call "Value" [v.description]
  | .range low high =>
    Describe.call "Range"
      [Describe.option (low.map Value.description), Describe.option (high.map Value.description)]
  | .rawSql sql => Describe.call "Raw" [Describe.string sql]
  | .subquery query => Describe.call "Subquery" [query.description]

def Operator.description : Operator → String
  | .comparison symbol nullForm =>
    Describe.record "SimpleOperator" [
      ("sql_operator", Describe.string symbol),
      ("sql_for_null", Describe.option (nullForm.map Describe.string))]
  | .membership => "InOperator"
  | .negation inner => Describe.record "NotOperator" [("inner", inner.description)]
  | .like pattern caseSensitive =>
    Describe.record "LikeOperator" [
      ("pattern", Describe.string pattern),
      ("case_sensitive", Describe.bool caseSensitive)]
  | .caselessEqual => "IExactOperator"
  | .between => "BetweenOperator"
  | .custom name _ => name

def Condition.description (c : Condition) : String :=
  Describe.record "FieldCondition" [
    ("field_name", Describe.string c.field),
    ("operator_name", Describe.string c.operatorName),
    ("operator", c.operator.description),
    ("value", c.operand.description)]

def Connective.description : Connective → String
  | .and => "And"
  | .or => "Or"

namespace Tree

mutual

def description : Tree Condition → String
  | .node mode negated leaves children =>
    Describe.record "Q" [
      ("conditions", Describe.list (leaves.map Condition.description)),
      ("children", Describe.list (descriptions children)),
      ("mode", mode.description),
      ("negate", Describe.bool negated)]

def descriptions : List (Tree Condition) → List String
  | [] => []
  | child :: rest => description child :: descriptions rest

end

end Tree

end SelectBuilder
