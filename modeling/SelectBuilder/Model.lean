import SelectBuilder.Column.Literal
import SelectBuilder.Entries
import SelectBuilder.Error

/-! Tables as statements see them: a name, an engine and typed fields in their order. -/
namespace SelectBuilder

/-- The fields of a model, all of types that come with the library. -/
structure FieldSet where
  model : String
  columns : Entries ColumnType

namespace FieldSet

/-- Fields in declaration order. A repeated name keeps its place and takes the later type. -/
def ofList (model : String) (columns : List (String × ColumnType)) : FieldSet :=
  ⟨model, Entries.ofList columns⟩

def get (fields : FieldSet) (name : String) : Except QueryError ColumnType :=
  match fields.columns.get? name with
  | some type => .ok type
  | none => .error (.fieldNotFound fields.model name)

def contains (fields : FieldSet) (name : String) : Bool :=
  fields.columns.contains name

/-- The value of a column's type that a raw value stands for. Conditions read times in UTC. -/
def normalize (type : ColumnType) (name : String) (raw : Value) : Except QueryError Value :=
  (type.normalize Zone.utc raw).mapError (.conversion name)

def literal (fields : FieldSet) (name : String) (raw : Value) : Except QueryError String := do
  let type ← fields.get name
  let value ← normalize type name raw
  return type.literal true value

end FieldSet

structure Model where
  table : String
  engine : Engine
  fields : FieldSet

namespace Model

/-- A model whose fields carry the name of its table. -/
def ofColumns (table : String) (engine : Engine) (columns : List (String × ColumnType)) : Model :=
  ⟨table, engine, .ofList table columns⟩

/-- People, a model for examples. -/
def person : Model :=
  ofColumns "person" .mergeTree [
    ("first_name", .string),
    ("last_name", .string),
    ("birthday", .date),
    ("height", .float .float32),
    ("passport", .nullable (.int .uint32))]

/-- Visits, a model for examples whose engine collapses rows. -/
def visit : Model :=
  ofColumns "visit" .collapsingMergeTree [("id", .int .uint32), ("sign", .int .int8)]

end Model

end SelectBuilder
