/-
Texts in which every character can be seen.

A message that quotes a text shows what the text consists of.  So a character that does not
show by itself is given by its number, and one that would end the quotation has a backslash
before it.
-/
import TableGraph.Text.HiddenTables

namespace TableGraph.Text

/-- The character cannot be seen, or only together with another one. -/
def isHidden (c : Char) : Bool := c.toNat < 0x20 || inRanges hiddenRanges c

/-- The character in a way that it can be seen. -/
def visibleChar (c : Char) : String :=
  match c with
  | '"' => "\\\""
  | '\\' => "\\\\"
  | '\n' => "\\n"
  | '\t' => "\\t"
  | '\r' => "\\r"
  | '\x00' => "\\0"
  | _ =>
    if isHidden c then "\\u\x7b" ++ String.ofList (Nat.toDigits 16 c.toNat) ++ "\x7d"
    else String.singleton c

/-- The text in double quotes, in which every character can be seen. -/
def visible (s : String) : String := "\"" ++ String.join (s.toList.map visibleChar) ++ "\""

end TableGraph.Text
