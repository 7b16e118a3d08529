import SelectBuilder.Column.Normalize
import SelectBuilder.Engine
import SelectBuilder.Text.Encoding

/-!
Causes of failure, while a statement is built or while it runs, and their messages. A failure says
what went wrong; the wording is here alone.
-/
namespace SelectBuilder

inductive OperandKind where
  | value | range | rawSql | subquery
  deriving DecidableEq, Repr

def OperandKind.name : OperandKind → String
  | .value => "value"
  | .range => "range"
  | .rawSql => "raw SQL"
  | .subquery => "subquery"

inductive ArgumentFault where
  | unknownOperator (name : String)
  | operandRefused (operator : String) (kind : OperandKind)
  | betweenShape (kind : OperandKind)
  | noBound (field : String)
  | negativeIndex
  | reversedSlice
  | emptyPage
  | pageNumber (number : Int64)
  | nothingCalculated
  | notGroupable (name : String)
  | other (text : String)
  deriving DecidableEq

def ArgumentFault.message : ArgumentFault → String
  | .unknownOperator name => "unknown operator `" ++ name ++ "`"
  | .operandRefused operator kind =>
    "operator `" ++ operator ++ "` does not accept a " ++ kind.name ++ " operand"
  | .betweenShape kind =>
    "operator `between` expects a range or a two-element array, got a " ++ kind.name ++ " operand"
  | .noBound field => "between on `" ++ field ++ "` needs at least one bound"
  | .negativeIndex => "negative indexes are not supported"
  | .reversedSlice => "start of slice cannot be greater than its end"
  | .emptyPage => "page size must be positive"
  | .pageNumber number => "invalid page number: " ++ toString number.toInt
  | .nothingCalculated => "no calculated fields specified for aggregation"
  | .notGroupable name =>
    "cannot group by `" ++ name ++ "` since it is not included in the query"
  | .other text => text

inductive UnsupportedFault where
  | final (engine : Engine) (table : String)
  | projection
  | reaggregation
  | other (text : String)
  deriving DecidableEq

def UnsupportedFault.message : UnsupportedFault → String
  | .final engine table =>
    "final() is not supported by the " ++ engine.name ++ " engine of `" ++ table ++ "`"
  | .projection => "cannot use only() with an aggregate query"
  | .reaggregation => "cannot re-aggregate an aggregate query"
  | .other text => text

/-- What the database or the way to it reports. -/
inductive DatabaseFault where
  | badResponse (text : String)
  | custom (text : String)
  | schema (text : String)
  | network (text : String)
  /-- A request that cannot be made. -/
  | parameters (text : String)
  | other (text : String)
  | timedOut
  | rowNotFound
  | notEnoughData
  deriving DecidableEq

def DatabaseFault.message : DatabaseFault → String
  | .badResponse text => "bad response: " ++ text
  | .custom text => "a custom error message from serde: " ++ text
  | .schema text => "schema mismatch: " ++ text
  | .network text => "network error: " ++ text
  | .parameters text => "invalid params: " ++ text
  | .other text => text
  | .timedOut => "timeout expired"
  | .rowNotFound => "no rows returned by a query that expected to return at least one row"
  | .notEnoughData => "not enough data, probably a row type mismatches a database schema"

/-- Any other failure of a data source. -/
inductive SourceFault where
  | countNotInteger (answer : String)
  | encoding (fault : EncodingFault)
  | other (text : String)
  deriving DecidableEq

def SourceFault.message : SourceFault → String
  | .countNotInteger answer => "count query returned a non-integer: " ++ answer
  | .encoding fault => "response is not valid UTF-8: " ++ fault.message
  | .other text => text

inductive QueryError where
  | invalidArgument (fault : ArgumentFault)
  | unsupported (fault : UnsupportedFault)
  | fieldNotFound (model field : String)
  | conversion (field : String) (reason : Rejection)
  | doesNotExist (index : UInt64)
  | database (fault : DatabaseFault)
  | decode (reason : String)
  | timeout (seconds : UInt64)
  | source (fault : SourceFault)

namespace QueryError

def message : QueryError → String
  | .invalidArgument fault => "Invalid argument: " ++ fault.message
  | .unsupported fault => "Unsupported operation: " ++ fault.message
  | .fieldNotFound model field =>
    "Field `" ++ field ++ "` is not defined on model `" ++ model ++ "`"
  | .conversion field reason => "Invalid value for field `" ++ field ++ "`: " ++ reason.message
  | .doesNotExist index => "No row at index " ++ toString index.toNat
  | .database fault => "ClickHouse error: " ++ fault.message
  | .decode reason => "Row decode error: " ++ reason
  | .timeout seconds => "Query timeout after " ++ toString seconds.toNat ++ "s"
  | .source fault => "Data source error: " ++ fault.message

/-- The failure came from running a statement, not from building it. -/
def isExecution : QueryError → Bool
  | .database _ | .decode _ | .timeout _ | .source _ => true
  | _ => false

/-- Whether a text holds another one. -/
def mentions (text part : String) : Bool :=
  (Text.cutFirst? part.toList text.toList).isSome

/-- The same statement may succeed later, since the connection and not the statement failed. -/
def isTransient : QueryError → Bool
  | .timeout _ => true
  | .database fault =>
    let text := fault.message
    mentions text "connection" || mentions text "timeout" || mentions text "network"
  | _ => false

end QueryError

end SelectBuilder
