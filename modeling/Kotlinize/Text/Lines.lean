/-!
# Lines

A text is cut into lines at its line feeds. A carriage return just before a line feed belongs to
the line break; what follows the last line feed is a line only if it is not empty.
-/

namespace Kotlinize.Text

/-- Characters without a carriage return at their end. -/
def withoutReturn (cs : List Char) : List Char :=
  if cs.getLast? = some '\r' then cs.dropLast else cs

/-- The lines made of the pieces between line feeds. -/
def linesOfPieces : List (List Char) → List (List Char)
  | [] => []
  | [last] => if last.isEmpty then [] else [last]
  | piece :: rest => withoutReturn piece :: linesOfPieces rest

/-- **The lines of a text.** -/
def lines (s : String) : List String :=
  (linesOfPieces (s.toList.splitOn '\n')).map String.ofList

end Kotlinize.Text
