/-
Parsers over the tokens of a script.

A parser takes tokens from the front of a list and gives a value, or says what is wrong.
Something unexpected is the token at the front, or the end of the script.  A parser that
fails leaves the tokens as they were when it failed, since a few statements go on from
there; an attempt gives back what was taken.  A script that is nested too deep fails as a
whole, so an attempt does not end that.

A loop runs once more than there are tokens at most, which is enough because every round
that goes on takes a token.
-/
import TableGraph.Sql.Error
import TableGraph.Sql.Name

namespace TableGraph.Sql

/-- Takes tokens from the front of a list. -/
abbrev Parser := EStateM SqlError (List Lexeme)

namespace Parser

variable {α σ : Type}

/-! ### Single tokens -/

/-- The next token with its place, which is not taken. -/
def front? : Parser (Option Lexeme) := return (← get).head?

/-- The next token, which is not taken. -/
def next? : Parser (Option Token) := return (← front?).map (·.token)

/-- The place of the next token; the end of the script has none. -/
def place? : Parser (Option Location) := return (← front?).map (·.location)

/-- Takes the next token. -/
def skip : Parser Unit := modify List.tail

/-- Something else should have come next. -/
def fail (wanted : String) : Parser α := do throw (.unexpected wanted (← front?))

/-- Something else should have come than the next token, which is taken. -/
def reject (wanted : String) : Parser α := do
  let found ← front?
  skip
  throw (.unexpected wanted found)

/-- Something is wrong at a place. -/
def remark (text : String) (location : Option Location) : Parser α := throw (.remark text location)

/-- The next token is this symbol. -/
def nextIs (s : String) : Parser Bool := return (← next?) == some (.symbol s)

/-- The next token acts as this keyword. -/
def nextIsKeyword (k : String) : Parser Bool := return (← next?).any (·.isKeyword k)

/-- The next token acts as one of these keywords. -/
def nextIsOneOf (ks : List String) : Parser Bool := do
  match ← next? with
  | some (.word w) => return w.isOneOf ks
  | _ => return false

/-- Takes the symbol if it comes next. -/
def symbol? (s : String) : Parser Bool := do
  let found ← nextIs s
  if found then skip
  return found

/-- Takes the symbol. -/
def symbol (s : String) : Parser Unit := do
  unless ← symbol? s do fail s

/-- Takes the keyword if it comes next. -/
def keyword? (k : String) : Parser Bool := do
  let found ← nextIsKeyword k
  if found then skip
  return found

/-- Takes the keyword. -/
def keyword (k : String) : Parser Unit := do
  unless ← keyword? k do fail k

/-- Takes one of the keywords if one comes next, and says which. -/
def keywordOf? (ks : List String) : Parser (Option String) := do
  match ← next? with
  | some (.word w) =>
    let found := ks.find? w.isKeyword
    if found.isSome then skip
    return found
  | _ => return none

/-- Takes one of the keywords. -/
def keywordOf (ks : List String) : Parser String := do
  match ← keywordOf? ks with
  | some k => return k
  | none => fail ("one of " ++ " or ".intercalate ks)

/-- The answer to a question that is asked only where it may be. -/
def allowed (may : Bool) (question : Parser Bool) : Parser Bool :=
  if may then question else return false

/-- Takes the keywords, one after the other. -/
def phrase (ks : List String) : Parser Unit := ks.forM keyword

/-! ### Choice and repetition -/

/-- What the parser gives, or nothing if it fails; then nothing is taken. -/
def attempt (p : Parser α) : Parser (Option α) := fun tokens =>
  match p tokens with
  | .ok a rest => .ok (some a) rest
  | .error .tooDeep rest => .error .tooDeep rest
  | .error _ _ => .ok none tokens

/-- What the parser gives, or nothing if it fails; what was taken then stays taken. -/
def heedless (p : Parser α) : Parser (Option α) := fun tokens =>
  match p tokens with
  | .ok a rest => .ok (some a) rest
  | .error _ rest => .ok none rest

/-- What follows the keywords, if the tokens begin with them in this order. -/
def afterPhrase? : List String → List Lexeme → Option (List Lexeme)
  | [], rest => some rest
  | k :: ks, l :: rest => if l.token.isKeyword k then afterPhrase? ks rest else none
  | _ :: _, [] => none

/-- The keywords come next in this order. -/
def nextArePhrase (ks : List String) : Parser Bool := return (afterPhrase? ks (← get)).isSome

/-- Takes the keywords if all of them come next. -/
def phrase? (ks : List String) : Parser Bool := do
  match afterPhrase? ks (← get) with
  | some rest => set rest; return true
  | none => return false

/-- The first of the phrases that comes next, which is taken. -/
def phraseOf? : List (List String) → Parser (Option String)
  | [] => return none
  | ks :: rest => do
    if ← phrase? ks then return some (" ".intercalate ks)
    phraseOf? rest

/-- Goes from state to state, once more than there are tokens in `left` at most. -/
def iterate (step : σ → Parser (Option σ)) : List Lexeme → σ → Parser σ
  | [], s => return (← step s).getD s
  | _ :: left, s => do
    match ← step s with
    | some s' => iterate step left s'
    | none => return s

/-- Goes from state to state until there is no next one. -/
def loop (step : σ → Parser (Option σ)) (s : σ) : Parser σ := do iterate step (← get) s

/-- All values that the parser gives one after the other. -/
def many (p : Parser (Option α)) : Parser (List α) := do
  return (← loop (fun found => do return (← p).map (· :: found)) []).reverse

/-- One value or more with this symbol between them. -/
def separatedBy (s : String) (p : Parser α) : Parser (List α) := do
  let first ← p
  let others ← many do if ← symbol? s then some <$> p else return none
  return first :: others

/-- One value or more with commas between them. -/
def commaSeparated (p : Parser α) : Parser (List α) := separatedBy "," p

/-- Values with commas between them, or none if the closing symbol comes next. -/
def commaSeparatedUntil (closing : String) (p : Parser α) : Parser (List α) := do
  if ← nextIs closing then return []
  commaSeparated p

/-- What the parser gives between parentheses. -/
def parenthesized (p : Parser α) : Parser α := do
  symbol "("
  let a ← p
  symbol ")"
  return a

/-- What the parser gives after the keywords, or nothing if they do not come next. -/
def after? (ks : List String) (p : Parser α) : Parser (Option α) := do
  if ← phrase? ks then some <$> p else return none

/-- What the parser gives, which is not needed. -/
def forget (p : Parser α) : Parser Unit := do
  let _ ← p
  return

/-! ### Names, texts and numbers -/

/-- An identifier: any word, or a text that stands for one. -/
def ident : Parser Ident := do
  match ← next? with
  | some (.word w) => skip; return ⟨w.text, w.quote⟩
  | some (.text .single s) => skip; return ⟨s, some '\''⟩
  | some (.text .double s) => skip; return ⟨s, some '"'⟩
  | _ => reject "identifier"

/-- The name of an object. -/
def objectName : Parser ObjectName := do
  let first ← ident
  let others ← many do if ← symbol? "." then some <$> ident else return none
  match (first :: others).reverse with
  | base :: qualifiers => return ⟨qualifiers.reverse, base⟩
  | [] => return ⟨[], first⟩

/-- Identifiers in parentheses. -/
def identList : Parser (List Ident) := parenthesized (commaSeparated ident)

/-- Columns in parentheses. -/
def columnList : Parser (List Ident) := do
  if ← nextIs "(" then identList else fail "a list of columns in parentheses"

/-- Columns in parentheses, or none; `empty` says that the parentheses may hold none. -/
def columnList? (empty : Bool) : Parser (List Ident) := do
  if ← nextIs "(" then
    parenthesized do
      if empty then commaSeparatedUntil ")" ident else commaSeparated ident
  else return []

/-- The objects with commas between them. -/
def objectNames : Parser (List ObjectName) := commaSeparated objectName

/-- A text in single quotes. -/
def singleText (wanted : String) : Parser String := do
  match ← next? with
  | some (.text .single s) => skip; return s
  | _ => reject wanted

/-- A word, which has no meaning of its own in this place. -/
def anyWord : Parser String := do
  match ← next? with
  | some (.word w) => skip; return w.text
  | _ => reject "identifier"

/-- Reads one more digit of a number of so many bits. -/
def addDigit (bits value : Nat) (c : Char) : Except NumberFault Nat :=
  if c.isDigit then
    let next := value * 10 + (c.toNat - '0'.toNat)
    if next < Nat.pow 2 bits then .ok next else .error .tooLarge
  else .error .invalidDigit

/-- The whole number of so many bits that the digits stand for; `place` is where they are. -/
def valueOf (bits : Nat) (digits : String) (place : Location) : Parser Nat :=
  match digits.toList.foldlM (addDigit bits) 0 with
  | .ok n => return n
  | .error fault => throw (.badNumber digits bits fault place)

/-- A whole number of so many bits. -/
def natural (bits : Nat) : Parser Nat := do
  match ← front? with
  | some ⟨.number digits _, place⟩ => skip; valueOf bits digits place
  | _ => reject "literal int"

/-- The digits of a number, if one comes next. -/
def digits? : Parser (Option String) := do
  match ← next? with
  | some (.number digits _) => skip; return some digits
  | _ => return none

end Parser

end TableGraph.Sql
