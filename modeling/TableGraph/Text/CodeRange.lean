/-
Sets of characters given by ranges of code points.

Properties of characters are data: a property is a list of ranges, and a character has
it when its code point lies in one of them.
-/

namespace TableGraph.Text

/-- The first and the last code point of a range; both belong to it. -/
abbrev CodeRange := Nat × Nat

/-- The character's code point lies in one of the ranges. -/
def inRanges (ranges : List CodeRange) (c : Char) : Bool :=
  ranges.any fun range => range.1 ≤ c.toNat && c.toNat ≤ range.2

end TableGraph.Text
