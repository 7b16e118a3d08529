/-!
String literals and LIKE patterns. A literal stands between single quotes and escapes control
characters, quotes and backslashes with a backslash. A LIKE pattern is escaped once more inside its
literal.
-/
namespace SelectBuilder.Text

/-- The letter that follows the backslash when a character has to be escaped in a literal. -/
def escapeLetter? : Char → Option Char
  | '\x08' => some 'b'
  | '\x0c' => some 'f'
  | '\r' => some 'r'
  | '\n' => some 'n'
  | '\t' => some 't'
  | '\x00' => some '0'
  | '\\' => some '\\'
  | '\x27' => some '\x27'
  | _ => none

theorem ne_of_escapeLetter?_eq_none {c : Char} (h : escapeLetter? c = none) :
    c ≠ '\\' ∧ c ≠ '\x27' := by
  constructor <;> rintro rfl <;> exact absurd h (by decide)

/-- A character as it stands in the body of a literal. -/
def escapeChar (c : Char) : List Char :=
  match escapeLetter? c with
  | some letter => ['\\', letter]
  | none => [c]

def escape (s : String) : String :=
  String.ofList (s.toList.flatMap escapeChar)

def quote (s : String) : String :=
  "'" ++ escape s ++ "'"

theorem toList_quote (s : String) :
    (quote s).toList = '\x27' :: (s.toList.flatMap escapeChar ++ ['\x27']) := by
  simp [quote, escape]

/-- A string literal with quotes, or only its body. -/
def stringLiteral (quoted : Bool) (s : String) : String :=
  if quoted then quote s else escape s

/-- Escapes the wildcards and backslashes of a pattern that is the body of a literal already: the
backslash of a wildcard and an escaped backslash are doubled, other escapes stay as they are. -/
def likeChars : List Char → List Char
  | [] => []
  | '\\' :: '\\' :: rest => '\\' :: '\\' :: '\\' :: '\\' :: likeChars rest
  | '\\' :: c :: rest => '\\' :: c :: likeChars rest
  | ['\\'] => ['\\', '\\']
  | '%' :: rest => '\\' :: '\\' :: '%' :: likeChars rest
  | '_' :: rest => '\\' :: '\\' :: '_' :: likeChars rest
  | c :: rest => c :: likeChars rest

/-- The body of a literal as text that a LIKE pattern matches verbatim. -/
def likeBody (s : String) : String :=
  String.ofList (likeChars s.toList)

/-- A pattern with every `{}` replaced by a text; the text itself is not searched again. -/
def fillChars (value : List Char) : List Char → List Char
  | '\x7b' :: '\x7d' :: rest => value ++ fillChars value rest
  | c :: rest => c :: fillChars value rest
  | [] => []

/-- A pattern with every `{}` replaced by a text. -/
def fill (pattern value : String) : String :=
  String.ofList (fillChars value.toList pattern.toList)

end SelectBuilder.Text
