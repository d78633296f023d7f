/-
Cutting a script into tokens.

What stands at the beginning of a text is a piece: a token, or something to skip, and a
number of characters.  The dialects differ in the characters of a word, in the quotes
that words and texts may have, and in a few marks.  A script in which a text, a quoted
word or a comment is not closed has no tokens at all.

Every piece takes at least one character, so cutting ends; a place is found by walking
over the characters that were taken.
-/
import TableGraph.Sql.Error
import TableGraph.Sql.Dialect
import TableGraph.Sql.QuotedText
import TableGraph.Text.Letter
import TableGraph.Text.Number
import TableGraph.Text.Blank

namespace TableGraph.Sql

open Text

/-! ### Characters -/

namespace Dialect

/-- A word may begin with this character. -/
def startsWord (d : Dialect) (c : Char) : Bool :=
  match d with
  | .generic => isAlphabetic c || c == '_' || c == '#' || c == '@'
  | .postgresql => isAlphabetic c || c == '_'
  | .mysql =>
    isAlphabetic c || c == '_' || c == '$' || c == '@' || ('\u0080' ≤ c && c ≤ '\uffff')
  | .sqlite => c.isAlpha || c == '_' || ('\x7f' ≤ c && c ≤ '\uffff')

/-- A word may go on with this character. -/
def continuesWord (d : Dialect) (c : Char) : Bool :=
  d.startsWord c || c.isDigit || (c == '$' && (d == .generic || d == .postgresql))

/-- The character opens a quoted word. -/
def opensWord (d : Dialect) (c : Char) : Bool :=
  match d with
  | .generic => c == '"' || c == '\x60'
  | .postgresql => c == '"'
  | .mysql => c == '\x60'
  | .sqlite => c == '"' || c == '\x60' || c == '['

/-- A backslash in a text changes the character after it. -/
def hasEscapes (d : Dialect) : Bool := d == .mysql

/-- Double quotes are quotes of a text. -/
def hasDoubleTexts (d : Dialect) : Bool := d == .mysql

/-- A `#` opens a comment. -/
def hasHashComments (d : Dialect) : Bool := d == .mysql

/-- There are texts of bytes. -/
def hasByteTexts (d : Dialect) : Bool := d != .sqlite

/-- There are texts without escapes of any kind. -/
def hasRawTexts (d : Dialect) : Bool := d == .generic

/-- There are texts with numbers of characters. -/
def hasUnicodeTexts (d : Dialect) : Bool := d == .generic || d == .postgresql

/-- A word may begin with digits. -/
def hasDigitWords (d : Dialect) : Bool := d == .mysql

/-- There is a sign for division without a rest. -/
def hasWholeDivision (d : Dialect) : Bool := d == .generic

/-- Any run of operator characters is an operator. -/
def hasFreeOperators (d : Dialect) : Bool := d == .postgresql

/-- A question mark is an operator. -/
def hasQuestionOperators (d : Dialect) : Bool := d == .postgresql

end Dialect

/-- The marks and operators that all dialects share, each before its own beginnings;
`\x7b` and `\x7d` are the braces. -/
def operators : List String := [
  "->>", "->", "-", "||/", "||", "|/", "|", "=>", "==", "=", "!~~*", "!~~", "!~*", "!~",
  "!!", "!=", "!", "<=>", "<=", "<>", "<<", "<@", "<", ">=", ">>", ">", "::", ":=", ":",
  "&&", "&", "^@", "^", "~~*", "~~", "~*", "~", "#>>", "#>", "#-", "#", "@>", "@?", "@@",
  "@", "+", "*", "/", "%", "(", ")", ",", ";", "\\", "[", "]", "\x7b", "\x7d"]

/-- The operators that begin with one of these can be longer where operators are free. -/
def opensFreeOperator (c : Char) : Bool := "-%|<>&~#".toList.contains c

/-- A character of which a free operator consists. -/
def isOperatorChar (c : Char) : Bool := "+-*/<>=~!@#%^&|\x60?".toList.contains c

/-! ### Pieces -/

/-- What stands at the beginning of a text, and the number of its characters. -/
structure Piece where
  /-- A token, or none if the characters are to be skipped. -/
  token : Option Token
  size : Nat
deriving Repr, DecidableEq

namespace Piece

/-- Characters to skip. -/
def skip (size : Nat) : Piece := ⟨none, size⟩

/-- A symbol that is written with these characters. -/
def symbol (s : List Char) : Piece := ⟨some (.symbol (String.ofList s)), s.length⟩

/-- A word without quotes. -/
def word (s : List Char) : Piece := ⟨some (.word (.bare (String.ofList s))), s.length⟩

/-- A text whose opening has so many characters. -/
def text (kind : TextKind) (opening : Nat) (read : TextRead) : Piece :=
  ⟨some (.text kind (String.ofList read.1)), opening + read.2⟩

end Piece

/-- What is said about a text that is not closed. -/
def unclosedText : String := "Unterminated string literal"

/-- A text, or the flaw that it is not closed, which is pointed at its opening quote. -/
def closedText (kind : TextKind) (opening quoteAt : Nat) (read : Option TextRead) :
    Except Flaw Piece :=
  match read with
  | some read => .ok (.text kind opening read)
  | none => .error ⟨unclosedText, quoteAt⟩

/-- A text after a mark of so many characters and its opening quote. -/
def markedText (kind : TextKind) (mark : Nat) (quote : Char) (escapes : Bool)
    (rest : List Char) : Except Flaw Piece :=
  closedText kind (mark + 1) mark (closeQuote quote escapes [] 0 rest)

/-- A text without escapes, after its mark and its first quote: between single quotes,
between triple quotes, or empty. -/
def rawText (simple triple : TextKind) (quote : Char) (rest : List Char) : Except Flaw Piece :=
  match (rest.take 2).takeWhile (· == quote) with
  | [] => closedText simple 2 2 (closeQuote quote false [] 0 rest)
  | [_] => .ok (.text simple 3 ([], 0))
  | _ => closedText triple 4 4 (closeTriple quote [] 0 (rest.drop 2))

/-- The quoted word after its opening quote. -/
def quotedWord (quote : Char) (rest : List Char) : Except Flaw Piece :=
  match closeQuote (closingQuote quote) false [] 0 rest with
  | some (value, n) => .ok ⟨some (.word (.within quote (String.ofList value))), n + 1⟩
  | none =>
    .error ⟨"Expected close delimiter '" ++ String.singleton (closingQuote quote)
      ++ "' before EOF.", 0⟩

/-! ### Comments -/

/-- The number of characters up to the end of a comment whose opening is read; none if it
is not closed.  `depth` comments are open around it, `last` is the character before, and
`taken` counts the characters. -/
def closeComment (depth : Nat) (last : Char) (taken : Nat) : List Char → Option Nat
  | [] => none
  | c :: rest =>
    if last = '/' ∧ c = '*' then closeComment (depth + 1) c (taken + 1) rest
    else if last = '*' ∧ c = '/' then
      match depth with
      | 0 => some (taken + 1)
      | outer + 1 => closeComment outer c (taken + 1) rest
    else closeComment depth c (taken + 1) rest

/-- A line up to its end, which a comment takes. -/
def lineComment (s : List Char) : Piece := .skip (s.takeWhile (· != '\n')).length

/-- The comment after its opening. -/
def blockComment (rest : List Char) : Except Flaw Piece :=
  match closeComment 0 ' ' 0 rest with
  | some n => .ok (.skip (n + 2))
  | none => .error ⟨"Unexpected EOF while in a multi-line comment", rest.length + 2⟩

/-! ### Numbers and words -/

/-- The exponent at the beginning of a text: it has digits, or it is none. -/
def exponent (s : List Char) : List Char :=
  match s with
  | [] => []
  | e :: rest =>
    let sign := (rest.take 1).filter fun c => c == '+' || c == '-'
    let digits := (rest.drop sign.length).takeWhile Char.isDigit
    if (e == 'e' || e == 'E') && !digits.isEmpty then e :: sign ++ digits else []

/-- A number, or the point that begins none. -/
def numberPiece (d : Dialect) (s : List Char) : Piece :=
  let whole := s.takeWhile Char.isDigit
  let rest := s.drop whole.length
  if whole = ['0'] ∧ rest.head? = some 'x' then
    let digits := (rest.drop 1).takeWhile isHexDigit
    ⟨some (.text .hex (String.ofList digits)), digits.length + 2⟩
  else
    let point := (rest.take 1).filter (· == '.')
    let fraction := (rest.drop point.length).takeWhile Char.isDigit
    let decimal := whole ++ point ++ fraction
    let rest := s.drop decimal.length
    let letters := rest.takeWhile d.continuesWord
    let digits := decimal ++ exponent rest
    let marked := (s.drop digits.length).head? == some 'L'
    if decimal = ['.'] then .symbol decimal
    else if d.hasDigitWords && !letters.isEmpty && rest.head?.map Char.toLower != some 'e' then
      .word (decimal ++ letters)
    else ⟨some (.number (String.ofList digits) marked), digits.length + (if marked then 1 else 0)⟩

/-- The word that begins with this many characters, whatever they are. -/
def wordPiece (d : Dialect) (n : Nat) (s : List Char) : Piece :=
  .word (s.take n ++ (s.drop n).takeWhile d.continuesWord)

/-- A word that begins with a mark which is an operator elsewhere.  The character after the
mark belongs to the word, unless it makes an operator of the mark. -/
def markedWord? (d : Dialect) (s : List Char) : Option Piece :=
  match s with
  | '#' :: c :: _ =>
    if d.startsWord '#' && !" ->".toList.contains c then some (wordPiece d 2 s) else none
  | '@' :: '@' :: c :: _ => if d.startsWord '@' && c != ' ' then some (wordPiece d 3 s) else none
  | '@' :: c :: _ =>
    if d.startsWord '@' && !">?@ ".toList.contains c then some (wordPiece d 2 s) else none
  | _ => none

/-! ### Operators and placeholders -/

/-- The longest operator at the beginning of a text.  The sign of inequality has two
spellings. -/
def operator? (d : Dialect) (s : List Char) : Option Piece :=
  let known := if d.hasWholeDivision then "//" :: operators else operators
  (known.find? (·.toList.isPrefixOf s)).map fun op =>
    let more := (s.drop op.length).takeWhile isOperatorChar
    if d.hasFreeOperators && (s.take 1).any opensFreeOperator then .symbol (op.toList ++ more)
    else if op = "!=" then ⟨some (.symbol "<>"), 2⟩
    else .symbol op.toList

/-- A place to be filled in: the mark, and the name or number after it. -/
def placeholderPiece (mark : Char) (name : List Char) : Piece :=
  ⟨some (.placeholder (String.ofList (mark :: name))), name.length + 1⟩

/-- What a question mark begins.  As an operator it swallows the character after it, which
shows in the operator only if it makes another one of it. -/
def questionPiece (d : Dialect) (rest : List Char) : Piece :=
  if d.hasQuestionOperators then
    match rest with
    | '|' :: _ => .symbol ['?', '|']
    | '&' :: _ => .symbol ['?', '&']
    | _ => ⟨some (.symbol "?"), 1 + (rest.take 1).length⟩
  else placeholderPiece '?' (rest.takeWhile isNumeric)

/-- What a dollar sign begins: a text between dollar signs, or a place to be filled in. -/
def dollarPiece (rest : List Char) : Except Flaw Piece :=
  let inName (c : Char) : Bool := isAlphabetic c || isNumeric c || c == '_'
  let tag := rest.takeWhile inName
  match rest.drop tag.length with
  | '$' :: text =>
    let tagText := String.ofList tag
    if tag.isEmpty then
      match closeDollars false [] 0 text with
      | some read => .ok (.text (.dollar "") 2 read)
      | none => .error ⟨"Unterminated dollar-quoted string", rest.length + 1⟩
    else
      match closeTag tag [] 0 text with
      | some read => .ok (.text (.dollar tagText) (tag.length + 2) read)
      | none => .error ⟨"Unterminated dollar-quoted, expected $", rest.length + 1⟩
  | _ => .ok (placeholderPiece '$' tag)

/-- What a text begins with, if it is neither a quoted thing nor a number nor a comment. -/
def plainPiece (d : Dialect) (c : Char) (rest : List Char) : Except Flaw Piece :=
  match markedWord? d (c :: rest) <|> operator? d (c :: rest) with
  | some p => .ok p
  | none =>
    if c = '?' then .ok (questionPiece d rest)
    else if d.startsWord c then .ok (wordPiece d 1 (c :: rest))
    else if c = '$' then dollarPiece rest
    else if isBlank c then .ok (.skip 1)
    else .ok (.symbol [c])

/-- A text that begins with a letter and a quote, if this is one in the dialect. -/
def letteredText? (d : Dialect) (letter : Char) (rest : List Char) :
    Option (Except Flaw Piece) :=
  match letter.toUpper, rest with
  | 'B', '\'' :: text =>
    if d.hasByteTexts then some (markedText .bytes 1 '\'' false text) else none
  | 'B', '"' :: text =>
    if d.hasByteTexts then some (markedText .doubleBytes 1 '"' false text) else none
  | 'R', '\'' :: text => if d.hasRawTexts then some (rawText .raw .tripleRaw '\'' text) else none
  | 'R', '"' :: text =>
    if d.hasRawTexts then some (rawText .doubleRaw .tripleDoubleRaw '"' text) else none
  | 'N', '\'' :: text => some (markedText .national 1 '\'' true text)
  | 'X', '\'' :: text => some (markedText .hex 1 '\'' true text)
  | 'E', '\'' :: text => some <|
    match closeEscaped [] 0 text with
    | some read => .ok (.text .escaped 2 read)
    | none => .error ⟨"Unterminated encoded string literal", 0⟩
  | 'U', '&' :: '\'' :: text =>
    if d.hasUnicodeTexts then
      some <| match closeUnicode [] 3 text with
      | .ok read => .ok (.text .unicode 0 read)
      | .error flaw => .error flaw
    else none
  | _, _ => none

/-- What a text begins with. -/
def piece (d : Dialect) (c : Char) (rest : List Char) : Except Flaw Piece :=
  if c = ' ' ∨ c = '\t' ∨ c = '\n' ∨ c = '\r' then .ok (.skip 1)
  else
    match letteredText? d c rest with
    | some p => p
    | none =>
      match c, rest with
      | '\'', text => markedText .single 0 '\'' d.hasEscapes text
      | '-', '-' :: _ => .ok (lineComment (c :: rest))
      | '/', '*' :: text => blockComment text
      | _, _ =>
        if c = '"' ∧ d.hasDoubleTexts then markedText .double 0 '"' d.hasEscapes rest
        else if d.opensWord c then quotedWord c rest
        else if c.isDigit ∨ c = '.' then .ok (numberPiece d (c :: rest))
        else if c = '#' ∧ d.hasHashComments then .ok (lineComment (c :: rest))
        else plainPiece d c rest

/-- Cuts a text that stands at `place`; `done` holds what came before, the last first. -/
def lexemesFrom (d : Dialect) (place : Location) (done : List Lexeme) (text : List Char) :
    Except SqlError (List Lexeme) :=
  match text with
  | [] => .ok done.reverse
  | c :: rest =>
    let placeAfter (n : Nat) : Location := ((c :: rest).take n).foldl Location.after place
    match piece d c rest with
    | .error flaw => .error (.remark flaw.message (some (placeAfter flaw.offset)))
    | .ok p =>
      let done := match p.token with
        | some t => ⟨t, place⟩ :: done
        | none => done
      lexemesFrom d (placeAfter p.size) done (rest.drop (p.size - 1))
termination_by text.length
decreasing_by simp only [List.length_drop, List.length_cons]; omega

/-- The tokens of a script. -/
def lexemes (d : Dialect) (text : String) : Except SqlError (List Lexeme) :=
  lexemesFrom d .start [] text.toList

end TableGraph.Sql
