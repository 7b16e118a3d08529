import SelectBuilder.Column.Type
import SelectBuilder.Value

/-! Literals of normalized values, by the type of the column. -/
namespace SelectBuilder.ColumnType

/-- The literal of a value of the column. A date-time column writes instants as timestamps; every
other scalar column writes the plain literal. The items of an array always stand in quotes. -/
def literal (quoted : Bool) : ColumnType → Value → String
  | .dateTime, .dateTime t => Text.stringLiteral quoted t.timestampText
  | .nullable _, .null => Value.nullLiteral
  | .nullable inner, value => inner.literal quoted value
  | .array inner, .array items =>
    "[" ++ Text.commaJoin (items.map (inner.literal true)) ++ "]"
  | _, value => value.literal quoted

end SelectBuilder.ColumnType
