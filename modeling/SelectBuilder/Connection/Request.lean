import SelectBuilder.Connection.Address
import SelectBuilder.Connection.Settings
import SelectBuilder.Connection.Template
import SelectBuilder.Error

/-! Requests to the database server. -/
namespace SelectBuilder

inductive ResultFormat where
  | rows
  | plain
  | binary
  deriving DecidableEq, Repr

def ResultFormat.name : ResultFormat → String
  | .rows => "JSONEachRow"
  | .plain => "TabSeparated"
  | .binary => "RowBinaryWithNamesAndTypes"

structure Request where
  path : String
  /-- Named values of the request, by name. -/
  parameters : List (String × String)
  user : Option String
  key : Option String
  statement : String
  deriving DecidableEq, Repr

namespace Request

/-- The named values of a request: replies come compressed, and numbers of 64 bits stay numbers. -/
def parameterList (database : String) (format : Option ResultFormat) : List (String × String) :=
  [("compress", "1"), ("database", database)] ++
    format.toList.map (fun f => ("default_format", f.name)) ++
    [("output_format_json_quote_64bit_integers", "0")]

/-- A text that can stand in a header. -/
def isHeaderText (s : String) : Bool :=
  s.toList.all fun c => (' ' ≤ c && c ≠ '\x7f') || c = '\t'

/-- The request for a template under settings, if the settings can be sent. -/
def ofTemplate (settings : Settings) (format : Option ResultFormat) (template : String) :
    Except DatabaseFault Request :=
  match Template.statement? template, Address.ofString? settings.url with
  | none, _ => .error (.parameters "unbound query argument")
  | _, none => .error (.parameters "no address")
  | some statement, some address =>
    if (settings.user.toList ++ settings.password.toList).all isHeaderText then
      .ok ⟨address.path, parameterList settings.database format, settings.user, settings.password,
        statement⟩
    else .error (.parameters "failed to parse header value")

end Request

end SelectBuilder
