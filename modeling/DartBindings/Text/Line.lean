/-!
Lines of a text.

A line ends at a line feed, and a carriage return directly in front of that line feed belongs to the
line's end.  A text that ends with a line feed has no further empty line, and the empty text has no
line at all.

Main exports: lines, linesOf
-/

namespace DartBindings.Text

/-- The pieces between line feeds, one more than there are line feeds. -/
def splitAtFeeds : List Char → List (List Char)
  | [] => [[]]
  | c :: rest =>
      if c = '\n' then [] :: splitAtFeeds rest
      else
        match splitAtFeeds rest with
        | [] => [[c]]
        | piece :: pieces => (c :: piece) :: pieces

/-- The text without one carriage return at its end. -/
def dropCarriageReturn (line : List Char) : List Char :=
  if line.getLast? = some '\r' then line.dropLast else line

/-- The lines of the pieces between line feeds: every piece but the last was ended by a feed. -/
def linesOfPieces : List (List Char) → List (List Char)
  | [] => []
  | [last] => if last.isEmpty then [] else [last]
  | piece :: pieces => dropCarriageReturn piece :: linesOfPieces pieces

/-- The lines of a text. -/
def lines (text : List Char) : List (List Char) :=
  linesOfPieces (splitAtFeeds text)

/-- The lines of a string. -/
def linesOf (text : String) : List String :=
  (lines text.toList).map String.ofList

end DartBindings.Text
