import SelectBuilder.Text.Fragment
import SelectBuilder.Text.Quoted

/-! Column types and their names in the database. -/
namespace SelectBuilder

attribute [local instance (high)] instPowNat

/-- A whole number column by its sign and width. -/
inductive IntType where
  | int8 | int16 | int32 | int64
  | uint8 | uint16 | uint32 | uint64
  deriving DecidableEq, Repr

namespace IntType

def name : IntType → String
  | .int8 => "Int8"
  | .int16 => "Int16"
  | .int32 => "Int32"
  | .int64 => "Int64"
  | .uint8 => "UInt8"
  | .uint16 => "UInt16"
  | .uint32 => "UInt32"
  | .uint64 => "UInt64"

def least : IntType → Int
  | .int8 => -2 ^ (7 : Nat)
  | .int16 => -2 ^ (15 : Nat)
  | .int32 => -2 ^ (31 : Nat)
  | .int64 => -2 ^ (63 : Nat)
  | .uint8 | .uint16 | .uint32 | .uint64 => 0

def greatest : IntType → Int
  | .int8 => 2 ^ (7 : Nat) - 1
  | .int16 => 2 ^ (15 : Nat) - 1
  | .int32 => 2 ^ (31 : Nat) - 1
  | .int64 => 2 ^ (63 : Nat) - 1
  | .uint8 => 2 ^ (8 : Nat) - 1
  | .uint16 => 2 ^ (16 : Nat) - 1
  | .uint32 => 2 ^ (32 : Nat) - 1
  | .uint64 => 2 ^ (64 : Nat) - 1

end IntType

inductive FloatType where
  | float32 | float64
  deriving DecidableEq, Repr

def FloatType.name : FloatType → String
  | .float32 => "Float32"
  | .float64 => "Float64"

inductive EnumType where
  | enum8 | enum16
  deriving DecidableEq, Repr

def EnumType.name : EnumType → String
  | .enum8 => "Enum8"
  | .enum16 => "Enum16"

/-- The column types that come with the library. A field of an application that converts and writes
values in a way of its own is not one of them: nothing here is said about what it writes. -/
inductive ColumnType where
  | string
  /-- Text of at most so many bytes. -/
  | fixedString (length : Nat)
  | int (type : IntType)
  | float (type : FloatType)
  /-- Truth values, stored as 0 and 1. -/
  | bool
  | date
  | dateTime
  /-- One of several names, each standing for a number. -/
  | enumeration (type : EnumType) (variants : List (String × Int16))
  | nullable (inner : ColumnType)
  | array (inner : ColumnType)

namespace ColumnType

/-- A name with its number, as in the type of an enumeration. -/
def variantText (variant : String × Int16) : String :=
  Text.quote variant.1 ++ " = " ++ toString variant.2.toInt

def databaseName : ColumnType → String
  | .string => "String"
  | .fixedString length => "FixedString(" ++ toString length ++ ")"
  | .int type => type.name
  | .float type => type.name
  | .bool => "UInt8"
  | .date => "Date"
  | .dateTime => "DateTime"
  | .enumeration type variants =>
    type.name ++ "(" ++ Text.commaJoin (variants.map variantText) ++ ")"
  | .nullable inner => "Nullable(" ++ inner.databaseName ++ ")"
  | .array inner => "Array(" ++ inner.databaseName ++ ")"

end ColumnType

end SelectBuilder
