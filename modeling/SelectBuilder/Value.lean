import SelectBuilder.Calendar.Instant
import SelectBuilder.Number.Shortest
import SelectBuilder.Text.Fragment
import SelectBuilder.Text.Quoted

/-! Values that conditions compare columns with, and their literals. -/
namespace SelectBuilder

/-- A scalar or an array. -/
inductive Value where
  | null
  | bool (b : Bool)
  | int (n : Int64)
  | uint (n : UInt64)
  | float (x : Float)
  | string (s : String)
  | date (d : Date)
  | dateTime (t : Instant)
  | array (items : List Value)

namespace Value

def nullLiteral : String := "\\N"

/-- The kind of a value as messages name it. -/
def kind : Value → String
  | .null => "null"
  | .bool _ => "bool"
  | .int _ | .uint _ => "integer"
  | .float _ => "float"
  | .string _ => "string"
  | .date _ => "date"
  | .dateTime _ => "datetime"
  | .array _ => "array"

def isNull : Value → Bool
  | .null => true
  | _ => false

def string? : Value → Option String
  | .string s => some s
  | _ => none

mutual

/-- The literal of a value. Strings, dates and times stand in quotes or, for use inside a larger
literal, without them; inside an array they always do. -/
def literal (quoted : Bool) : Value → String
  | .null => nullLiteral
  | .bool b => if b then "1" else "0"
  | .int n => toString n.toInt
  | .uint n => toString n.toNat
  | .float x => FloatStyle.literal.render x
  | .string s => Text.stringLiteral quoted s
  | .date d => Text.stringLiteral quoted d.text
  | .dateTime t => Text.stringLiteral quoted t.text
  | .array items => "[" ++ Text.commaJoin (literals items) ++ "]"

def literals : List Value → List String
  | [] => []
  | item :: rest => literal true item :: literals rest

end

end Value

end SelectBuilder
