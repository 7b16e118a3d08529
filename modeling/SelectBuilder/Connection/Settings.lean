import SelectBuilder.Document.Basic
import SelectBuilder.Number.Numeral
import SelectBuilder.Text.Blank
import SelectBuilder.Text.Description

/-!
Connection settings. Each comes from its environment variable if that is set, else from the settings
file, else from the defaults.
-/
namespace SelectBuilder

structure Settings where
  url : String
  database : String
  user : Option String
  password : Option String
  timeoutSeconds : UInt64
  compression : Bool
  deriving DecidableEq, Repr

structure FileSettings where
  url : Option String := none
  database : Option String := none
  user : Option String := none
  password : Option String := none
  timeoutSeconds : Option UInt64 := none
  compression : Option Bool := none
  deriving DecidableEq, Repr

inductive SettingsError where
  | unreadableFile (path : String)
  | malformedFile (path : String)
  | timeout (raw : String) (fault : NumeralFault)
  | compression (raw : String)
  | emptyUrl
  | emptyDatabase
  | noTimeout
  deriving DecidableEq, Repr

abbrev Environment := String → Option String

namespace Settings

def pathVariable : String := "CHORM_CONFIG"

def urlVariable : String := "CHORM_CLICKHOUSE_URL"
def databaseVariable : String := "CHORM_CLICKHOUSE_DATABASE"
def userVariable : String := "CHORM_CLICKHOUSE_USER"
def passwordVariable : String := "CHORM_CLICKHOUSE_PASSWORD"
def timeoutVariable : String := "CHORM_CLICKHOUSE_TIMEOUT_SECS"
def compressionVariable : String := "CHORM_CLICKHOUSE_COMPRESSION"

def defaults : Settings :=
  ⟨"http://localhost:8123", "default", none, none, 30, true⟩

end Settings

namespace SettingsError

/-- A setting as its variable gave it. -/
def compressionWord (raw : String) : String :=
  Text.lowerAscii (Text.trim raw)

def message : SettingsError → String
  | .unreadableFile path => "Failed to read config file: " ++ path
  | .malformedFile path => "Failed to parse config file: " ++ path
  | .timeout raw _ => "Invalid " ++ Settings.timeoutVariable ++ ": " ++ raw
  | .compression raw => "Invalid " ++ Settings.compressionVariable ++ ": " ++ raw
  | .emptyUrl =>
    "Configuration error: clickhouse.url must not be empty. Set via " ++ Settings.urlVariable ++
      " env var or clickhouse.url in config file."
  | .emptyDatabase => "Configuration error: clickhouse.database must not be empty"
  | .noTimeout => "Configuration error: clickhouse.timeout_secs must be greater than 0"

/-- What lies behind the error, as far as it has a text of its own. -/
def cause? : SettingsError → Option String
  | .timeout _ fault => some fault.message
  | .compression raw =>
    some ("expected a boolean, got " ++ Describe.string (compressionWord raw))
  | _ => none

end SettingsError

namespace FileSettings

def ofDocument? (d : Document) : Option FileSettings := do
  match ← d.fields? ["url", "database", "user", "password", "timeout_secs", "compression"] with
  | [url, database, user, password, timeout, compression] =>
    return {
      url := ← Document.optional? Document.text? url
      database := ← Document.optional? Document.text? database
      user := ← Document.optional? Document.text? user
      password := ← Document.optional? Document.text? password
      timeoutSeconds := ← Document.optional? Document.uint64? timeout
      compression := ← Document.optional? Document.bool? compression }
  | _ => none

/-- The settings in the text of a file. A file without the section gives none. -/
def ofString? (s : String) : Option FileSettings := do
  let d ← Document.ofString? s
  match ← d.fields? ["clickhouse"] with
  | [block] => return (← Document.optional? ofDocument? block).getD {}
  | _ => none

end FileSettings

/-- A settings file: its path, and its text if it can be read. -/
structure SettingsFile where
  path : String
  text : Option String

def SettingsFile.settings (file : SettingsFile) : Except SettingsError FileSettings :=
  match file.text with
  | none => .error (.unreadableFile file.path)
  | some text =>
    match FileSettings.ofString? text with
    | some settings => .ok settings
    | none => .error (.malformedFile file.path)

namespace Settings

/-- A word for a truth value, in any case and between white space. -/
def readBool (raw : String) : Except SettingsError Bool :=
  match SettingsError.compressionWord raw with
  | "1" | "true" | "yes" | "on" => .ok true
  | "0" | "false" | "no" | "off" => .ok false
  | _ => .error (.compression raw)

/-- A number of seconds between white space. -/
def readSeconds (raw : String) : Except SettingsError UInt64 :=
  (Numeral.uint64 (Text.trim raw)).mapError (.timeout raw)

/-- Reads a variable if it is set, and takes the second value if not. -/
def fromVariable {α : Type} (environment : Environment) (name : String)
    (read : String → Except SettingsError α) (otherwise : α) : Except SettingsError α :=
  match environment name with
  | some raw => read raw
  | none => .ok otherwise

def resolve (file : FileSettings) (environment : Environment) : Except SettingsError Settings := do
  let timeoutSeconds ← fromVariable environment timeoutVariable readSeconds
    (file.timeoutSeconds.getD defaults.timeoutSeconds)
  let compression ← fromVariable environment compressionVariable readBool
    (file.compression.getD defaults.compression)
  return {
    url := ((environment urlVariable).or file.url).getD defaults.url
    database := ((environment databaseVariable).or file.database).getD defaults.database
    user := (environment userVariable).or file.user
    password := (environment passwordVariable).or file.password
    timeoutSeconds
    compression }

/-- Refuses settings that cannot work: a blank address or database, or no time at all. -/
def validate (s : Settings) : Except SettingsError Unit :=
  if Text.isBlankText s.url then .error .emptyUrl
  else if Text.isBlankText s.database then .error .emptyDatabase
  else if s.timeoutSeconds = 0 then .error .noTimeout
  else .ok ()

def load (file : Option SettingsFile) (environment : Environment) :
    Except SettingsError Settings := do
  let fileSettings ← match file with
    | some file => file.settings
    | none => .ok {}
  let settings ← resolve fileSettings environment
  settings.validate
  return settings

/-- Valid settings from an environment, which may name a settings file. -/
def ofEnvironment (read : String → Option String) (environment : Environment) :
    Except SettingsError Settings :=
  load ((environment pathVariable).map fun path => ⟨path, read path⟩) environment

end Settings

end SelectBuilder
