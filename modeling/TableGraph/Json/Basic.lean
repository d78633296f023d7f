/-
JSON values and their two written forms.

The fields of an object keep their order.  The compact form has no blanks; the indented
form has one element or field on a line, two blanks further in than what holds it.
-/
import TableGraph.Decimal.Shortest

namespace TableGraph

/-- A JSON value. -/
inductive Json
  | null
  | bool (value : Bool)
  | nat (value : Nat)
  | float (value : Float)
  | string (value : String)
  | array (items : List Json)
  | object (fields : List (String × Json))

namespace Json

/-! ### Numbers -/

/-- The decimal in positional notation, or with an exponent from `10 ^ 16` on and below
`10 ^ -5`; a whole number keeps one decimal place. -/
def decimalText (x : Decimal) : String :=
  let digits := toString x.digits
  let point := (digits.length : Int) + x.exponent
  let zeros (n : Int) : String := String.ofList (List.replicate n.toNat '0')
  if 0 ≤ x.exponent ∧ point ≤ 16 then digits ++ zeros x.exponent ++ ".0"
  else if 0 < point ∧ point ≤ 16 then
    String.ofList (digits.toList.take point.toNat) ++ "."
      ++ String.ofList (digits.toList.drop point.toNat)
  else if -5 < point ∧ point ≤ 0 then "0." ++ zeros (-point) ++ digits
  else
    let rest := digits.toList.drop 1
    String.ofList (digits.toList.take 1)
      ++ (if rest.isEmpty then "" else "." ++ String.ofList rest) ++ "e" ++ toString (point - 1)

/-- A floating-point number with the fewest digits that read back.  What is not finite has
no written form, and is written as nothing known. -/
def floatText (f : Float) : String :=
  let bits := f.toBits.toNat
  let magnitude := bits % Nat.pow 2 63
  if 2047 * Nat.pow 2 52 ≤ magnitude then "null"
  else
    (if Nat.pow 2 63 ≤ bits then "-" else "")
      ++ (if magnitude = 0 then "0.0" else decimalText (Decimal.shortest (.ofBits magnitude)))

/-! ### Texts -/

/-- A hexadecimal digit. -/
def hexDigit (n : Nat) : Char := if n < 10 then Char.ofNat (48 + n) else Char.ofNat (87 + n)

/-- A character inside a string: quotes, backslashes and control characters are escaped. -/
def escapeChar (c : Char) : List Char :=
  if c = '"' then ['\\', '"']
  else if c = '\\' then ['\\', '\\']
  else if c = '\n' then ['\\', 'n']
  else if c = '\r' then ['\\', 'r']
  else if c = '\t' then ['\\', 't']
  else if c.toNat = 0x8 then ['\\', 'b']
  else if c.toNat = 0xC then ['\\', 'f']
  else if c.toNat < 0x20 then
    ['\\', 'u', '0', '0', hexDigit (c.toNat / 16), hexDigit (c.toNat % 16)]
  else [c]

/-- A text in quotes. -/
def quote (s : String) : String := "\"" ++ String.ofList (s.toList.flatMap escapeChar) ++ "\""

/-! ### Values -/

/-- A value that holds no other. -/
def scalarText : Json → String
  | null => "null"
  | bool true => "true"
  | bool false => "false"
  | nat n => toString n
  | float f => floatText f
  | string s => quote s
  | array _ => "[]"
  | object _ => "\x7b\x7d"

mutual

/-- The compact form. -/
def compact : Json → String
  | array items => "[" ++ compactItems items ++ "]"
  | object fields => "\x7b" ++ compactFields fields ++ "\x7d"
  | scalar => scalarText scalar

/-- The items of an array in compact form, with commas between them. -/
def compactItems : List Json → String
  | [] => ""
  | [item] => compact item
  | item :: rest => compact item ++ "," ++ compactItems rest

/-- The fields of an object in compact form, with commas between them. -/
def compactFields : List (String × Json) → String
  | [] => ""
  | [(key, value)] => quote key ++ ":" ++ compact value
  | (key, value) :: rest => quote key ++ ":" ++ compact value ++ "," ++ compactFields rest

end

/-- A new line at this depth. -/
def newLine (depth : Nat) : String := "\n" ++ String.ofList (List.replicate (2 * depth) ' ')

mutual

/-- The indented form of a value at this depth. -/
def indentedAt (depth : Nat) : Json → String
  | array [] => "[]"
  | array items => "[" ++ indentedItems (depth + 1) items ++ newLine depth ++ "]"
  | object [] => "\x7b\x7d"
  | object fields => "\x7b" ++ indentedFields (depth + 1) fields ++ newLine depth ++ "\x7d"
  | scalar => scalarText scalar

/-- The items of an array on lines of their own. -/
def indentedItems (depth : Nat) : List Json → String
  | [] => ""
  | [item] => newLine depth ++ indentedAt depth item
  | item :: rest => newLine depth ++ indentedAt depth item ++ "," ++ indentedItems depth rest

/-- The fields of an object on lines of their own. -/
def indentedFields (depth : Nat) : List (String × Json) → String
  | [] => ""
  | [(key, value)] => newLine depth ++ quote key ++ ": " ++ indentedAt depth value
  | (key, value) :: rest =>
    newLine depth ++ quote key ++ ": " ++ indentedAt depth value ++ ","
      ++ indentedFields depth rest

end

/-- The indented form. -/
def indented (j : Json) : String := indentedAt 0 j

end Json

end TableGraph
