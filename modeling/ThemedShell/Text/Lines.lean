/-!
# Lines of a text

A line ends at a line feed, or at a carriage return followed by one. What follows the last line
feed is a line only if it is not empty; a carriage return at its end belongs to it.
-/
namespace ThemedShell.Text

/-- A line that a line feed ended, without the carriage return before it. -/
def dropReturn (line : List Char) : List Char :=
  if line.getLast? = some '\r' then line.dropLast else line

/-- The lines of a text that has been split at its line feeds. -/
def endedLines : List (List Char) → List (List Char)
  | [] => []
  | [last] => if last = [] then [] else [last]
  | line :: rest => dropReturn line :: endedLines rest

def lines (s : String) : List String :=
  (endedLines (s.toList.splitOn '\n')).map .ofList

end ThemedShell.Text
