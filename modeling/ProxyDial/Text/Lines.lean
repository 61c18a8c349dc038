import ProxyDial.Text.Pieces

/-!
# Lines

A line ends with a line feed, and a carriage return right before the line feed
belongs to the end.  What follows the last line feed is a line of its own unless it
is empty.
-/

namespace ProxyDial

/-- A line without the carriage return that ends it. -/
def dropReturn (line : List Char) : List Char :=
  if line.getLast? = some '\r' then line.dropLast else line

/-- Lines, of which the last has no line feed. -/
def endedLines : List (List Char) → List (List Char)
  | [] => []
  | [last] => if last = [] then [] else [last]
  | line :: rest => dropReturn line :: endedLines rest

/-- The lines of a text. -/
def lines (text : List Char) : List (List Char) := endedLines (pieces '\n' text)

example : lines "a\nb\n".toList = ["a".toList, "b".toList] := by decide
example : lines "a\r\n\nb".toList = ["a".toList, [], "b".toList] := by decide
example : lines [] = [] := by decide
example : lines ['\n'] = [[]] := by decide

end ProxyDial
