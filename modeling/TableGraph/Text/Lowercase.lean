/-
Full lower-casing.

Keys of the key index, patterns of column names, search terms, names of dialects and the
text in which a dialect is looked for are compared after lower-casing them with the full
Unicode mapping.  It is not a map over the characters: a capital sigma that ends a word
becomes `ς` and any other becomes `σ`, and a capital `İ` becomes two characters.
-/
import TableGraph.Text.CaseTables

namespace TableGraph.Text

/-- The property Cased: the character has a case. -/
def isCased (c : Char) : Bool :=
  if c.toNat < 0x80 then c.isAlpha else inRanges casedRanges c

/-- The property Case_Ignorable: the character does not count when the end of a word is
looked for. -/
def isCaseIgnorable (c : Char) : Bool :=
  if c.toNat < 0x80 then c == '\'' || c == '.' || c == ':' || c == '^' || c == '\x60'
  else inRanges caseIgnorableRanges c

/-- The small form of a character outside any context. -/
def lowerChar (c : Char) : List Char :=
  if c.toNat < 0x80 then [c.toLower]
  else if c = 'İ' then ['i', '\u0307']
  else match capitalRuns.find? (·.holds c.toNat) with
    | some run => [Char.ofNat (c.toNat + run.shift).toNat]
    | none => [c]

/-- The first character that is not ignored exists and has a case. -/
def leadsToCased (text : List Char) : Bool :=
  match text.dropWhile isCaseIgnorable with
  | c :: _ => isCased c
  | [] => false

/-- A sigma between these texts ends a word; `before` is written backwards. -/
def endsWord (before after : List Char) : Bool :=
  leadsToCased before && !leadsToCased after

/-- Lower-cases a text that follows `before`, which is written backwards. -/
def lowerAfter (before : List Char) : List Char → List Char
  | [] => []
  | c :: rest =>
    (if c = 'Σ' then [if endsWord before rest then 'ς' else 'σ'] else lowerChar c)
      ++ lowerAfter (c :: before) rest

/-- The text in lower case. -/
def lowercase (s : String) : String := String.ofList (lowerAfter [] s.toList)

/-- ASCII characters are lower-cased by core's `Char.toLower`. -/
theorem lowerChar_of_ascii {c : Char} (h : c.toNat < 0x80) : lowerChar c = [c.toLower] := by
  simp [lowerChar, h]

end TableGraph.Text
