/-! Pieces of a statement: lists with commas, identifiers, doubled placeholders, and cutting a text
at a mark. -/
namespace SelectBuilder.Text

def commaJoin (items : List String) : String :=
  ", ".intercalate items

def identifier (name : String) : String :=
  "`" ++ name ++ "`"

/-- A question mark is doubled, so that a statement template does not take it for a parameter. -/
def doublePlaceholder (c : Char) : List Char :=
  if c = '?' then ['?', '?'] else [c]

/-- A statement as a template without parameters. -/
def escapePlaceholders (s : String) : String :=
  String.ofList (s.toList.flatMap doublePlaceholder)

/-- The text before and after the first place where the mark stands. -/
def cutFirst? (mark : List Char) : List Char → Option (List Char × List Char)
  | [] => if mark.isEmpty then some ([], []) else none
  | c :: rest =>
    match mark.isPrefixOf? (c :: rest) with
    | some after => some ([], after)
    | none => (cutFirst? mark rest).map fun (before, after) => (c :: before, after)

/-- The text before and after the last place where the mark stands. -/
def cutLast? (mark : List Char) : List Char → Option (List Char × List Char)
  | [] => if mark.isEmpty then some ([], []) else none
  | c :: rest =>
    match cutLast? mark rest with
    | some (before, after) => some (c :: before, after)
    | none => (mark.isPrefixOf? (c :: rest)).map fun after => ([], after)

end SelectBuilder.Text
