/-!
Lines of text: each ends at a line feed, or at a carriage return and line feed, or at the end of
the text. A text that ends with a line end has no further, empty line after it.
-/

namespace Cartridge.Text

/-- The lines of a text without their line ends. -/
def linesList : List Char → List (List Char)
  | [] => []
  | '\n' :: rest => [] :: linesList rest
  | '\r' :: '\n' :: rest => [] :: linesList rest
  | c :: rest =>
    match linesList rest with
    | [] => [[c]]
    | line :: others => (c :: line) :: others

def lines (s : String) : List String :=
  (linesList s.toList).map String.ofList

end Cartridge.Text
