/-
White space.

A script that holds nothing else is no script, and the words of a column modifier are
compared after trimming it.  Both use the Unicode property White_Space, which a no-break
space and an ideographic space have, and a zero-width space has not.
-/
import TableGraph.Text.CodeRange

namespace TableGraph.Text

/-- The code points with the property White_Space. -/
def blankRanges : List CodeRange := [
  (0x9, 0xD), (0x20, 0x20), (0x85, 0x85), (0xA0, 0xA0), (0x1680, 0x1680), (0x2000, 0x200A),
  (0x2028, 0x2029), (0x202F, 0x202F), (0x205F, 0x205F), (0x3000, 0x3000)]

/-- White space: the property White_Space. -/
def isBlank (c : Char) : Bool := inRanges blankRanges c

/-- The text without the white space at its two ends. -/
def trim (s : String) : String :=
  String.ofList ((s.toList.dropWhile isBlank).reverse.dropWhile isBlank).reverse

/-- The text holds white space only. -/
def isBlankText (s : String) : Bool := s.toList.all isBlank

end TableGraph.Text
