import SelectBuilder.Calendar.Reading
import SelectBuilder.Calendar.Zone
import SelectBuilder.Column.Type
import SelectBuilder.Number.Decimal
import SelectBuilder.Value

/-!
Normalization: what a caller passes for a column becomes a value of the column's type, or is
refused. Each type accepts its own values and the usual spellings of them, numbers as text among
others.
-/
namespace SelectBuilder

attribute [local instance (high)] instPowNat

inductive Rejection where
  /-- The column takes another kind of value, or cannot read this one. -/
  | unexpected (wanted : String) (got : Value)
  | tooManyBytes (size limit : Nat)
  | outOfRange (number : Int) (type : IntType)
  | notMember (raw : Value) (type : ColumnType)
  /-- The clocks of the zone skip this time. -/
  | skippedTime (time : LocalTime) (zone : String)
  | other (text : String)

def Rejection.message : Rejection → String
  | .unexpected wanted got =>
    "expected " ++ wanted ++ ", got " ++ got.kind ++ " " ++ got.literal true
  | .tooManyBytes size limit =>
    "value of " ++ toString size ++ " bytes exceeds FixedString(" ++ toString limit ++ ")"
  | .outOfRange number type => toString number ++ " is out of range for " ++ type.name
  | .notMember raw type => raw.literal true ++ " is not a member of " ++ type.databaseName
  | .skippedTime time zone => time.text ++ " does not exist in " ++ zone
  | .other text => text

namespace Column

def expect {α : Type} (wanted : String) (raw : Value) : Option α → Except Rejection α
  | some x => .ok x
  | none => .error (.unexpected wanted raw)

def string : Value → Except Rejection Value
  | .string s => .ok (.string s)
  | raw => .error (.unexpected "string" raw)

/-- Text without the zero bytes that pad it. -/
def unpad (s : String) : String :=
  String.ofList (Text.dropEndWhile (· == '\x00') s.toList)

def fixedString (limit : Nat) : Value → Except Rejection Value
  | .string s =>
    let text := unpad s
    if limit < text.utf8ByteSize then .error (.tooManyBytes text.utf8ByteSize limit)
    else .ok (.string text)
  | raw => .error (.unexpected "string" raw)

/-- A whole number as a signed value if that can hold it, else as an unsigned one. -/
def number (n : Int) : Value :=
  if n < 2 ^ (63 : Nat) then .int (Int64.ofInt n) else .uint (UInt64.ofNat n.toNat)

def checked (type : IntType) (n : Int) : Except Rejection Value :=
  if n < type.least || type.greatest < n then .error (.outOfRange n type) else .ok (number n)

/-- The nearest number of 128 bits. -/
def clamp (n : Int) : Int :=
  max (-2 ^ (127 : Nat)) (min n (2 ^ (127 : Nat) - 1))

def numeral? (s : String) : Option Int :=
  match Numeral.int 128 (Text.trimChars s.toList) with
  | .ok n => some n
  | .error _ => none

def int (type : IntType) (raw : Value) : Except Rejection Value :=
  let n : Option Int :=
    match raw with
    | .int n => some n.toInt
    | .uint n => some n.toNat
    | .bool b => some (if b then 1 else 0)
    | .float x => (Binary.ofFloat x).integer?.map clamp
    | .string s => numeral? s
    | _ => none
  expect "integer" raw n >>= checked type

def float (raw : Value) : Except Rejection Value :=
  match raw with
  | .float x => .ok (.float x)
  | .int n => .ok (.float n.toFloat)
  | .uint n => .ok (.float n.toFloat)
  | .string s =>
    (expect "float" raw (Decimal.ofString? (Text.trim s))).map fun d => .float d.toFloat
  | _ => .error (.unexpected "float" raw)

def bool (raw : Value) : Except Rejection Value :=
  let b : Option Bool :=
    match raw with
    | .bool b => some b
    | .int n => if n = 0 then some false else if n = 1 then some true else none
    | .uint n => if n = 0 then some false else if n = 1 then some true else none
    | .string s =>
      match Text.lowerAscii (Text.trim s) with
      | "1" | "true" => some true
      | "0" | "false" => some false
      | _ => none
    | _ => none
  (expect "boolean" raw b).map .bool

/-- The text that stands for the first day of the calendar of dates. -/
def zeroDate : String := "0000-00-00"

/-- The text that stands for the first instant of timestamps. -/
def zeroDateTime : String := "0000-00-00 00:00:00"

/-- A date; numbers count days. -/
def date (zone : Zone) (raw : Value) : Except Rejection Value :=
  match raw with
  | .date d => .ok (.date d)
  | .dateTime t => (expect "date" raw (zone.date? t)).map .date
  | .int n => (expect "date" raw (if 0 ≤ n then Date.ofDays? n.toInt else none)).map .date
  | .uint n => (expect "date" raw (Date.ofDays? n.toNat)).map .date
  | .string s =>
    if s = zeroDate then .ok (.date Date.epoch)
    else (expect "date (YYYY-MM-DD)" raw (Reading.date? (Text.trimChars s.toList))).map .date
  | _ => .error (.unexpected "date" raw)

/-- The instant that a text names. Digits alone count seconds; a text without an offset from UTC is
a time in the zone, and a date means its midnight. -/
def instant? (zone : Zone) (s : String) : Option Instant :=
  let chars := Text.trimChars s.toList
  if String.ofList chars = zeroDateTime then some Instant.epoch
  else if !chars.isEmpty && chars.all Char.isDigit then
    match Numeral.int 64 chars with
    | .ok n => Instant.ofTimestamp? n
    | .error _ => none
  else
    match Reading.internet? chars with
    | some t => some t
    | none =>
      match Reading.localTime? chars with
      | some t => zone.instant? t
      | none => (Reading.date? chars).bind fun d => zone.instant? (.midnight d.civil)

/-- An instant; numbers count seconds, and a date means its midnight in the zone. -/
def dateTime (zone : Zone) (raw : Value) : Except Rejection Value :=
  match raw with
  | .dateTime t => .ok (.dateTime t)
  | .date d =>
    let time := LocalTime.midnight d.civil
    match zone.instant? time with
    | some t => .ok (.dateTime t)
    | none => .error (.skippedTime time zone.name)
  | .int n => (expect "datetime" raw (Instant.ofTimestamp? n.toInt)).map .dateTime
  | .uint n =>
    (expect "datetime" raw
      (if n.toNat < 2 ^ (63 : Nat) then Instant.ofTimestamp? n.toNat else none)).map .dateTime
  | .string s => (expect "datetime" raw (instant? zone s)).map .dateTime
  | _ => .error (.unexpected "datetime" raw)

def variant? (variants : List (String × Int16)) : Value → Option (String × Int16)
  | .string s => variants.find? (·.1 = s)
  | .int n => variants.find? (·.2.toInt64 = n)
  | .uint n => variants.find? (·.2.toInt64 = n.toInt64)
  | _ => none

/-- The name of a variant; numbers select by value. -/
def enumeration (type : EnumType) (variants : List (String × Int16)) (raw : Value) :
    Except Rejection Value :=
  match raw with
  | .string _ | .int _ | .uint _ =>
    match variant? variants raw with
    | some (name, _) => .ok (.string name)
    | none => .error (.notMember raw (.enumeration type variants))
  | _ => .error (.unexpected "enum name or value" raw)

/-- Null, or the text of its literal. -/
def isNullSpelling : Value → Bool
  | .null => true
  | .string s => s = Value.nullLiteral
  | _ => false

end Column

namespace ColumnType

/-- The value of the column's type that a raw value stands for. Texts without an offset from UTC are
times in the zone. An array is refused with the reason for its first refused item. -/
def normalize (zone : Zone) : ColumnType → Value → Except Rejection Value
  | .string, raw => Column.string raw
  | .fixedString limit, raw => Column.fixedString limit raw
  | .int type, raw => Column.int type raw
  | .float _, raw => Column.float raw
  | .bool, raw => Column.bool raw
  | .date, raw => Column.date zone raw
  | .dateTime, raw => Column.dateTime zone raw
  | .enumeration type variants, raw => Column.enumeration type variants raw
  | .nullable inner, raw =>
    if Column.isNullSpelling raw then .ok .null else inner.normalize zone raw
  | .array inner, .array items => (items.mapM (inner.normalize zone)).map .array
  | .array _, raw => .error (.unexpected "array" raw)

end ColumnType

end SelectBuilder
