/-
Tokens of SQL.

A token knows how it is written in a message.  A word keeps its spelling, and acts as a
keyword if it is not quoted and its capitals are the keyword.  The capitals are kept with
the word, since a parser asks for them again and again.
-/
import TableGraph.Text.Capitals

namespace TableGraph.Sql

/-- A place in a text: the line and the column, both from 1, the column in characters. -/
structure Location where
  line : Nat
  column : Nat
deriving Repr, DecidableEq, Inhabited

/-- The place where a text begins. -/
def Location.start : Location := ⟨1, 1⟩

/-- The place after a character; only a line feed ends a line. -/
def Location.after (l : Location) (c : Char) : Location :=
  if c = '\n' then ⟨l.line + 1, 1⟩ else ⟨l.line, l.column + 1⟩

/-- The forms of a text in quotes. -/
inductive TextKind
  | single
  | double
  | national
  | hex
  | bytes
  | doubleBytes
  /-- A text in which a backslash is a character like any other. -/
  | raw
  | doubleRaw
  | tripleRaw
  | tripleDoubleRaw
  /-- A text in which a backslash begins a character that is hard to write. -/
  | escaped
  /-- A text in which a backslash begins the number of a character. -/
  | unicode
  /-- A text between two marks, each of which is a tag between dollar signs. -/
  | dollar (tag : String)
deriving Repr, DecidableEq, Inhabited

/-- What stands before the value of a text. -/
def TextKind.opening : TextKind → String
  | .single => "'"
  | .double => "\""
  | .national => "N'"
  | .hex => "X'"
  | .bytes => "B'"
  | .doubleBytes => "B\""
  | .raw => "R'"
  | .doubleRaw => "R\""
  | .tripleRaw => "R'''"
  | .tripleDoubleRaw => "R\"\"\""
  | .escaped => "E'"
  | .unicode => "U&'"
  | .dollar tag => "$" ++ tag ++ "$"

/-- What stands after the value of a text. -/
def TextKind.closing : TextKind → String
  | .double | .doubleBytes | .doubleRaw => "\""
  | .tripleRaw => "'''"
  | .tripleDoubleRaw => "\"\"\""
  | .dollar tag => "$" ++ tag ++ "$"
  | _ => "'"

/-- A word, with the character that opens its quotes if it has any. -/
structure Word where
  text : String
  quote : Option Char
  /-- The word in capitals, or nothing if it is quoted and so no keyword. -/
  capitals : String
deriving Repr, DecidableEq, Inhabited

/-- The quote that closes what this one opens. -/
def closingQuote (quote : Char) : Char := if quote = '[' then ']' else quote

namespace Word

/-- A word without quotes. -/
def bare (text : String) : Word := ⟨text, none, Text.capitals text⟩

/-- A word in quotes. -/
def within (quote : Char) (text : String) : Word := ⟨text, some quote, ""⟩

/-- The word between its quotes. -/
def spelling (w : Word) : String :=
  match w.quote with
  | some q => String.ofList (q :: (w.text.toList ++ [closingQuote q]))
  | none => w.text

/-- The word acts as this keyword. -/
def isKeyword (w : Word) (keyword : String) : Bool := w.capitals == keyword

/-- The word acts as one of these keywords. -/
def isOneOf (w : Word) (keywords : List String) : Bool := keywords.contains w.capitals

end Word

/-- A token. -/
inductive Token
  | word (w : Word)
  /-- A number as written; `long` if an `L` follows it. -/
  | number (digits : String) (long : Bool)
  | text (kind : TextKind) (value : String)
  /-- A place to be filled in, with its mark. -/
  | placeholder (s : String)
  /-- A punctuation mark, an operator, or a character that begins nothing else. -/
  | symbol (s : String)
deriving Repr, DecidableEq, Inhabited

namespace Token

/-- The token as a message shows it. -/
def spelling : Token → String
  | .word w => w.spelling
  | .number digits long => digits ++ (if long then "L" else "")
  | .text kind value => kind.opening ++ value ++ kind.closing
  | .placeholder s => s
  | .symbol s => s

/-- The token acts as this keyword. -/
def isKeyword (t : Token) (keyword : String) : Bool :=
  match t with
  | .word w => w.isKeyword keyword
  | _ => false

end Token

/-- A token and the place where it begins. -/
structure Lexeme where
  token : Token
  location : Location
deriving Repr, DecidableEq, Inhabited

end TableGraph.Sql
