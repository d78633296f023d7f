/-
Reading texts between quotes.

Each form of a text has its own end and its own way to write characters that are hard to
write.  A reader is given what follows the opening of a text, and gives the value and the
number of characters up to the end of its closing.  A text can be cut off by the end of the
script, and some forms can be malformed before that.
-/

namespace TableGraph.Sql

/-- What is wrong with a text, and how many characters of it stand before the place that is
pointed at. -/
structure Flaw where
  message : String
  offset : Nat
deriving Repr, DecidableEq

/-- The value of a text, and the number of its characters. -/
abbrev TextRead := List Char × Nat

/-! ### Plain texts -/

/-- What a backslash makes of the character after it. -/
def escapedChar (c : Char) : Char :=
  match c with
  | '0' => '\x00'
  | 'a' => '\x07'
  | 'b' => '\x08'
  | 'f' => '\x0c'
  | 'n' => '\n'
  | 'r' => '\r'
  | 't' => '\t'
  | 'Z' => '\x1a'
  | _ => c

/-- Reads up to a quote; a doubled quote is one quote.  `done` holds what was read, the last
first, and `taken` counts it. -/
def closeQuote (quote : Char) (escapes : Bool) (done : List Char) (taken : Nat) :
    List Char → Option TextRead
  | [] => none
  | [c] => if c = quote then some (done.reverse, taken + 1) else none
  | c :: next :: rest =>
    if c = quote then
      if next = quote then closeQuote quote escapes (quote :: done) (taken + 2) rest
      else some (done.reverse, taken + 1)
    else if escapes && c == '\\' then
      closeQuote quote escapes (escapedChar next :: done) (taken + 2) rest
    else closeQuote quote escapes (c :: done) (taken + 1) (next :: rest)

/-- Reads up to three quotes in a row. -/
def closeTriple (quote : Char) (done : List Char) (taken : Nat) : List Char → Option TextRead
  | a :: b :: c :: rest =>
    if a = quote ∧ b = quote ∧ c = quote then some (done.reverse, taken + 3)
    else closeTriple quote (a :: done) (taken + 1) (b :: c :: rest)
  | _ => none

/-! ### Characters by their numbers -/

/-- The value of a hexadecimal digit. -/
def hexDigit? (c : Char) : Option Nat :=
  if c.isDigit then some (c.toNat - '0'.toNat)
  else if 'a' ≤ c ∧ c ≤ 'f' then some (c.toNat - 'a'.toNat + 10)
  else if 'A' ≤ c ∧ c ≤ 'F' then some (c.toNat - 'A'.toNat + 10)
  else none

/-- A digit of a hexadecimal number. -/
def isHexDigit (c : Char) : Bool := (hexDigit? c).isSome

/-- A digit of an octal number. -/
def isOctalDigit (c : Char) : Bool := '0' ≤ c && c ≤ '7'

/-- The number with these digits. -/
def ofDigits (base : Nat) (digits : List Char) : Nat :=
  digits.foldl (fun n c => n * base + (hexDigit? c).getD 0) 0

/-- The character with this number; half of a pair is no character. -/
def charOf? (n : Nat) : Option Char := if n.isValidChar then some (Char.ofNat n) else none

/-- The character that is the last byte of a number. -/
def byteOf? (n : Nat) : Option Char := if n % 256 < 128 then charOf? (n % 256) else none

/-- The character whose number is written with so many digits; the first of them may be a
plus. -/
def numbered? (count : Nat) (s : List Char) : Option Char :=
  let written := s.take count
  let digits := if written.head? = some '+' then written.drop 1 else written
  if written.length = count ∧ digits.all isHexDigit then charOf? (ofDigits 16 digits) else none

/-- The number in hexadecimal digits. -/
def hexText (n : Nat) : String := String.ofList (Nat.toDigits 16 n)

/-! ### Escaped texts -/

/-- What a backslash begins in an escaped text, and the number of characters after it. -/
def escape? (s : List Char) : Option (Char × Nat) :=
  match s with
  | [] => none
  | 'b' :: _ => some ('\x08', 1)
  | 'f' :: _ => some ('\x0c', 1)
  | 'n' :: _ => some ('\n', 1)
  | 'r' :: _ => some ('\r', 1)
  | 't' :: _ => some ('\t', 1)
  | 'u' :: rest => (numbered? 4 rest).map (·, 5)
  | 'U' :: rest => (numbered? 8 rest).map (·, 9)
  | 'x' :: rest =>
    let digits := (rest.take 2).takeWhile isHexDigit
    if digits.isEmpty then some ('x', 1)
    else (byteOf? (ofDigits 16 digits)).map (·, digits.length + 1)
  | c :: rest =>
    if isOctalDigit c then
      let digits := c :: (rest.take 2).takeWhile isOctalDigit
      (byteOf? (ofDigits 8 digits)).map (·, digits.length)
    else some (c, 1)

/-- Reads up to the end of an escaped text.  No escape may stand for the character 0. -/
def closeEscaped (done : List Char) (taken : Nat) (s : List Char) : Option TextRead :=
  match s with
  | [] => none
  | '\'' :: '\'' :: rest => closeEscaped ('\'' :: done) (taken + 2) rest
  | '\'' :: _ => some (done.reverse, taken + 1)
  | '\\' :: rest =>
    match escape? rest with
    | some (c, n) =>
      if c = '\x00' then none else closeEscaped (c :: done) (taken + 1 + n) (rest.drop n)
    | none => none
  | c :: rest => closeEscaped (c :: done) (taken + 1) rest
termination_by s.length
decreasing_by all_goals simp only [List.length_cons, List.length_drop]; omega

/-! ### Texts with numbers of characters -/

/-- Reads so many hexadecimal digits. -/
def readHex : Nat → Nat → Nat → List Char → Except Flaw Nat
  | 0, value, _, _ => .ok value
  | _ + 1, _, taken, [] =>
    .error ⟨"Unexpected EOF while parsing hex digit in escaped unicode string.", taken⟩
  | count + 1, value, taken, c :: rest =>
    match hexDigit? c with
    | some digit => readHex count (value * 16 + digit) (taken + 1) rest
    | none =>
      .error ⟨"Invalid hex digit in escaped unicode string: " ++ String.singleton c, taken + 1⟩

/-- Reads a character whose number has so many digits. -/
def readNumbered (count taken : Nat) (s : List Char) : Except Flaw Char := do
  let value ← readHex count 0 taken s
  match charOf? value with
  | some c => return c
  | none => throw ⟨"Invalid unicode character: " ++ hexText value, taken + count⟩

/-- Reads up to the end of a text in which a backslash begins the number of a character. -/
def closeUnicode (done : List Char) (taken : Nat) (s : List Char) : Except Flaw TextRead :=
  match s with
  | [] => .error ⟨"Unterminated unicode encoded string literal", taken⟩
  | '\'' :: '\'' :: rest => closeUnicode ('\'' :: done) (taken + 2) rest
  | '\'' :: _ => .ok (done.reverse, taken + 1)
  | '\\' :: '\\' :: rest => closeUnicode ('\\' :: done) (taken + 2) rest
  | '\\' :: '+' :: rest =>
    match readNumbered 6 (taken + 2) rest with
    | .ok c => closeUnicode (c :: done) (taken + 8) (rest.drop 6)
    | .error flaw => .error flaw
  | '\\' :: rest =>
    match readNumbered 4 (taken + 1) rest with
    | .ok c => closeUnicode (c :: done) (taken + 5) (rest.drop 4)
    | .error flaw => .error flaw
  | c :: rest => closeUnicode (c :: done) (taken + 1) rest
termination_by s.length
decreasing_by all_goals simp only [List.length_cons, List.length_drop]; omega

/-! ### Texts between dollar signs -/

/-- Reads up to two dollar signs in a row; `half` says that the last character was one. -/
def closeDollars (half : Bool) (done : List Char) (taken : Nat) : List Char → Option TextRead
  | [] => none
  | c :: rest =>
    if half then
      if c = '$' then some (done.reverse, taken + 1)
      else closeDollars false (c :: '$' :: done) (taken + 1) rest
    else if c = '$' then closeDollars true done (taken + 1) rest
    else closeDollars false (c :: done) (taken + 1) rest

/-- What follows a dollar sign: the tag and a dollar sign, so many other characters, or a
part of the tag at the end of the script. -/
inductive TagMatch
  | closed
  | other (taken : Nat)
  | cut
deriving Repr, DecidableEq

/-- Compares a tag with what follows a dollar sign. -/
def matchTag (taken : Nat) : List Char → List Char → TagMatch
  | [], '$' :: _ => .closed
  | [], _ => .other taken
  | _ :: _, [] => .cut
  | t :: tag, c :: rest => if c = t then matchTag (taken + 1) tag rest else .other (taken + 1)

/-- Reads up to the tag between dollar signs.  The character that shows that a dollar sign
does not begin the tag belongs to the text, even if it is a dollar sign itself. -/
def closeTag (tag : List Char) (done : List Char) (taken : Nat) (s : List Char) :
    Option TextRead :=
  match s with
  | [] => none
  | '$' :: rest =>
    match matchTag 0 tag rest with
    | .closed => some (done.reverse, taken + tag.length + 2)
    | .other n =>
      closeTag tag ((rest.take n).reverse ++ '$' :: done) (taken + 1 + n) (rest.drop n)
    | .cut => none
  | c :: rest => closeTag tag (c :: done) (taken + 1) rest
termination_by s.length
decreasing_by all_goals simp only [List.length_cons, List.length_drop]; omega

end TableGraph.Sql
