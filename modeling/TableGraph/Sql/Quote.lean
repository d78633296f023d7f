/-
Writing a text between quotes.

A quote inside the text is written twice.  A text may come from a place where its quotes
were marked already, so a quote that is doubled, or that stands after a backslash, is left
as it is.
-/

namespace TableGraph.Sql

/-- Doubles the quotes of a text that are not marked yet; `marked` says that a backslash
stands before it. -/
def markQuotes (quote : Char) : Bool → List Char → List Char
  | _, [] => []
  | marked, [c] => if c = quote ∧ !marked then [c, c] else [c]
  | marked, c :: next :: rest =>
    if c = quote then
      if marked then c :: markQuotes quote true (next :: rest)
      else if next = quote then c :: c :: markQuotes quote false rest
      else c :: c :: markQuotes quote false (next :: rest)
    else c :: markQuotes quote (c == '\\') (next :: rest)

/-- The text between quotes, with its own quotes marked. -/
def quoted (quote : Char) (text : String) : String :=
  String.ofList (quote :: (markQuotes quote false text.toList ++ [quote]))

/-- The text between single quotes. -/
def singleQuoted (text : String) : String := quoted '\'' text

/-- The text of an escaped text, with a backslash before what has to be marked. -/
def markEscapes (text : String) : String :=
  String.join (text.toList.map fun c =>
    match c with
    | '\'' => "\\'"
    | '\\' => "\\\\"
    | '\n' => "\\n"
    | '\t' => "\\t"
    | '\r' => "\\r"
    | _ => String.singleton c)

/-- A number in hexadecimal capitals, with zeros before it up to a width. -/
def paddedHex (width n : Nat) : String :=
  let digits := Nat.toDigits 16 n |>.map Char.toUpper
  String.ofList (List.replicate (width - digits.length) '0' ++ digits)

/-- The text with every character above ASCII written by its number. -/
def markUnicode (text : String) : String :=
  String.join (text.toList.map fun c =>
    if c = '\'' then "''"
    else if c = '\\' then "\\\\"
    else if c.toNat < 0x80 then String.singleton c
    else if c.toNat < 0x10000 then "\\" ++ paddedHex 4 c.toNat
    else "\\+" ++ paddedHex 6 c.toNat)

/-- A text without quotes is written as it is. -/
theorem markQuotes_eq_self {quote : Char} {text : List Char} (marked : Bool)
    (plain : quote ∉ text) : markQuotes quote marked text = text := by
  fun_induction markQuotes quote marked text <;> grind

end TableGraph.Sql
