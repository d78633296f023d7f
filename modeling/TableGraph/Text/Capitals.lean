/-
Words in capitals.

A keyword is known by its capitals.  All keywords are ASCII, so besides the small ASCII
letters only the characters matter whose capitals are ASCII letters: the long s, the i
without a dot, the sharp s and the ligatures of f and of s with t.  Every other character
is left as it is, and no keyword has it.
-/

namespace TableGraph.Text

/-- The characters above ASCII whose capitals are ASCII letters. -/
def foreignCapitals : List (Char × List Char) := [
  ('\u00df', ['S', 'S']), ('\u0131', ['I']), ('\u017f', ['S']), ('\ufb00', ['F', 'F']),
  ('\ufb01', ['F', 'I']), ('\ufb02', ['F', 'L']), ('\ufb03', ['F', 'F', 'I']),
  ('\ufb04', ['F', 'F', 'L']), ('\ufb05', ['S', 'T']), ('\ufb06', ['S', 'T'])]

/-- The capitals of a character, so far as they are ASCII letters. -/
def capitalsOf (c : Char) : List Char :=
  if c.toNat < 0x80 then [c.toUpper] else (foreignCapitals.lookup c).getD [c]

/-- The word in capitals. -/
def capitals (s : String) : String := String.ofList (s.toList.flatMap capitalsOf)

end TableGraph.Text
