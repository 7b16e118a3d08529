import SelectBuilder.Text.Fragment

/-!
Statement templates. A question mark stands for an argument, and before the word `fields` for the
list of fields; two of them stand for one question mark of the statement.
-/
namespace SelectBuilder.Template

inductive Part where
  | char (c : Char)
  | argument
  | fieldList
  deriving DecidableEq, Repr

def parts : List Char → List Part
  | '?' :: '?' :: rest => .char '?' :: parts rest
  | '?' :: 'f' :: 'i' :: 'e' :: 'l' :: 'd' :: 's' :: rest => .fieldList :: parts rest
  | '?' :: rest => .argument :: parts rest
  | c :: rest => .char c :: parts rest
  | [] => []

def Part.char? : Part → Option Char
  | .char c => some c
  | _ => none

/-- The statement of a template that asks for nothing. -/
def statement? (template : String) : Option String :=
  ((parts template.toList).mapM Part.char?).map String.ofList

end SelectBuilder.Template
