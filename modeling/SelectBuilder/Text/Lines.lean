import SelectBuilder.Text.Blank

/-! Lines of a text. -/
namespace SelectBuilder.Text

/-- The lines without their ends. A line ends with a line feed, in front of which a return belongs
to the end; the last line may end with the text. -/
def lines : List Char → List (List Char)
  | [] => []
  | '\r' :: '\n' :: rest => [] :: lines rest
  | '\n' :: rest => [] :: lines rest
  | c :: rest =>
    match lines rest with
    | line :: more => (c :: line) :: more
    | [] => [[c]]

/-- The lines that hold more than white space. -/
def filledLines (s : String) : List String :=
  ((lines s.toList).map String.ofList).filter (!isBlankText ·)

end SelectBuilder.Text
