import SelectBuilder.Connection.BinaryTable
import SelectBuilder.Connection.Reply
import SelectBuilder.Connection.Request
import SelectBuilder.Document.Row
import SelectBuilder.Query.Source
import SelectBuilder.Text.Lines

/-!
The database server as a data source. How a request travels is left to the server; what is asked,
and what a reply means, is here.
-/
namespace SelectBuilder

/-- What comes of a request. -/
inductive Outcome where
  | reply (r : Reply)
  | silence
  | unreachable

/-- A server under settings. -/
structure HttpSource (m : Type → Type) where
  settings : Settings
  server : Request → m Outcome

/-- The rows of a result, one a line; blank lines are passed over. -/
def readRows {ρ : Type} (read : String → Except String ρ) (body : String) :
    Except QueryError (List ρ) :=
  decodeRows read (Text.filledLines body)

def Row.read (s : String) : Except String Row :=
  match Row.ofString? s with
  | some row => .ok row
  | none => .error "no object"

namespace HttpSource

variable {m : Type → Type} [Monad m]

def description (s : HttpSource m) : String :=
  Describe.openRecord "ClickhouseSource" [
    ("timeout_secs", toString s.settings.timeoutSeconds.toNat)]

/-- The body that the server answers to a template. Without any time, no reply is in time. -/
def send (s : HttpSource m) (format : Option ResultFormat) (template : String) :
    Run m (List UInt8) := do
  let request ← Run.of ((Request.ofTemplate s.settings format template).mapError .database)
  if s.settings.timeoutSeconds = 0 then throw (.timeout 0)
  match ← ExceptT.lift (s.server request) with
  | .reply r => Run.of (r.result.mapError .database)
  | .silence => throw (.timeout s.settings.timeoutSeconds)
  | .unreachable => throw (.database (.network "no connection"))

def execute (s : HttpSource m) (template : String) : Run m Unit := do
  discard (s.send none template)

def healthCheck (s : HttpSource m) : Run m Unit :=
  s.execute "SELECT 1"

def fetchText (s : HttpSource m) (format : ResultFormat) (sql : String) : Run m String := do
  let body ← s.send (some format) (Text.escapePlaceholders sql)
  Run.of ((Text.decodeUtf8 body).mapError fun fault => .source (.encoding fault))

def countStatement (table conditions : String) : String :=
  "SELECT count() FROM " ++ Text.identifier table ++ " WHERE " ++ conditions

def dataSource (s : HttpSource m) : DataSource m Row where
  select sql := do
    Run.of (readRows Row.read (← s.fetchText .rows sql))
  count table conditions := do
    let body ← s.send (some .binary) (Text.escapePlaceholders (countStatement table conditions))
    Run.of ((BinaryTable.number body).mapError .database)
  raw sql := do
    let text := Text.trim (← s.fetchText .plain sql)
    return if text.isEmpty then none else some text

end HttpSource

end SelectBuilder
