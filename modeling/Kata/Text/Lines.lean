import Kata.Text.Basic

/-!
# Lines

A text falls into lines at its line feeds. A carriage return directly ahead of a line feed
belongs to the line end, and a line feed at the very end opens no further line.
-/

namespace Kata.Text

/-- Drop one carriage return from the end. -/
def dropReturn (line : Text) : Text :=
  (before? ['\r'] line).getD line

/-- The lines of a text without their ends. -/
def lines (text : Text) : List Text :=
  go (splitOn '\n' text)
where
  /-- The last piece has no line feed behind it: it keeps its carriage return, and an empty one
  is no line. -/
  go : List Text → List Text
    | [] => []
    | [last] => if last = [] then [] else [last]
    | line :: next :: rest => dropReturn line :: go (next :: rest)

end Kata.Text
