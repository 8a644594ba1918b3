import ParamTypes.Text.Trim

/-!
The lines of a text. A line ends at a line feed, and a carriage return in front of the
line feed belongs to the end of the line. The last line needs no line feed; behind the
last line feed there is no empty line.
-/

namespace ParamTypes.Text

def withoutReturn (line : List Char) : List Char :=
  (stripEnd? ['\r'] line).getD line

def lines (text : List Char) : List (List Char) :=
  let pieces := text.splitOn '\n'
  pieces.dropLast.map withoutReturn ++ pieces.getLast?.toList.filter (· ≠ [])

example : lines "a\r\r\n\nb\r".toList = ["a\r".toList, [], "b\r".toList] := by decide

example : lines "a\n\n".toList = ["a".toList, []] := by decide

end ParamTypes.Text
