import SelectBuilder.Text.Fragment
import SelectBuilder.Text.Hidden

/-!
Descriptions of values for people who look for a fault: strings in double quotes, lists in brackets,
records with the names of their fields, all on one line.
-/
namespace SelectBuilder.Describe

def charInString (c : Char) : List Char :=
  match c with
  | '\x00' => ['\\', '0']
  | '\t' => ['\\', 't']
  | '\r' => ['\\', 'r']
  | '\n' => ['\\', 'n']
  | '"' => ['\\', '"']
  | '\\' => ['\\', '\\']
  | c =>
    if Text.isHidden c then '\\' :: 'u' :: '\x7b' :: (Nat.toDigits 16 c.toNat ++ ['\x7d']) else [c]

def string (s : String) : String :=
  "\"" ++ String.ofList (s.toList.flatMap charInString) ++ "\""

def bool (b : Bool) : String :=
  if b then "true" else "false"

def list (items : List String) : String :=
  "[" ++ Text.commaJoin items ++ "]"

def call (name : String) (arguments : List String) : String :=
  name ++ "(" ++ Text.commaJoin arguments ++ ")"

def option : Option String → String
  | none => "None"
  | some x => call "Some" [x]

def field (entry : String × String) : String :=
  entry.1 ++ ": " ++ entry.2

def record (name : String) (fields : List (String × String)) : String :=
  name ++ " \x7b " ++ Text.commaJoin (fields.map field) ++ " \x7d"

/-- A record of which some fields are not shown. -/
def openRecord (name : String) (fields : List (String × String)) : String :=
  name ++ " \x7b " ++ Text.commaJoin (fields.map field ++ [".."]) ++ " \x7d"

/-- Names with values. -/
def mapping (entries : List (String × String)) : String :=
  "\x7b" ++ Text.commaJoin (entries.map field) ++ "\x7d"

end SelectBuilder.Describe
