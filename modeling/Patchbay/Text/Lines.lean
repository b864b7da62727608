-- The lines of a text. A line feed ends a line, together with one carriage
-- return right before it.
import Patchbay.Text.Split

namespace Patchbay.Text

/-- A line without the carriage return at its end. -/
def dropReturn (line : List Char) : List Char :=
  if line.getLast? = some '\r' then line.dropLast else line

/-- The lines of a text. Nothing after the last line feed is no line, and what
stands there keeps its carriage return. -/
def lines (cs : List Char) : List (List Char) :=
  let parts := splitOn ['\n'] cs
  parts.dropLast.map dropReturn ++ parts.getLast?.toList.filter (· ≠ [])

end Patchbay.Text
