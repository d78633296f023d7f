/-
Reading names and values that stand for themselves.
-/
import TableGraph.Sql.Parser.Grammar
import TableGraph.Sql.Keyword

namespace TableGraph.Sql.Parser

/-- An identifier as an expression. -/
def identExpr : Parser Expr := do return .path [← ident]

/-- Escaped texts are values in the dialect. -/
def hasEscapedValues (d : Dialect) : Bool := d == .generic || d == .postgresql

/-- The text that the token is, if it may stand where a bare text is wanted: one in quotes,
or a word without a meaning. -/
def bareText? (d : Dialect) : Token → Option String
  | .text .single s => some s
  | .text .double s => some s
  | .text .escaped s => if hasEscapedValues d then some s else none
  | .text .unicode s => some s
  | .word w => if w.isPlain then some w.text else none
  | _ => none

/-- A bare text. -/
def literalText (d : Dialect) : Parser String := do
  match (← next?).bind (bareText? d) with
  | some s => skip; return s
  | none => reject "literal string"

/-- The name of a place to be filled in, after its mark. -/
def placeholderName : Parser String := do
  match ← next? with
  | some (.word w) => skip; return w.text
  | some (.number digits false) => skip; return digits
  | _ => reject "placeholder"

/-- A value. -/
def value (d : Dialect) : Parser Expr := do
  match ← next? with
  | some (.number digits long) => skip; return .verbatim (Token.number digits long).spelling
  | some (.placeholder s) => skip; return .verbatim s
  | some (.text .escaped s) =>
    if hasEscapedValues d then skip; return .text .escaped s else reject "a value"
  | some (.text kind s) => skip; return .text kind s
  | some (.word w) =>
    if w.isKeyword "TRUE" then skip; return "true"
    else if w.isKeyword "FALSE" then skip; return "false"
    else if w.isKeyword "NULL" then skip; return "NULL"
    else
      match w.quote with
      | none => reject "a concrete value"
      | some '"' => skip; return .text .double w.text
      | some _ => reject "A value?"
  | some (.symbol s) =>
    if s == ":" || s == "@" then
      skip
      return .verbatim (s ++ (← placeholderName))
    else reject "a value"
  | none => reject "a value"

/-- The value is a number or a place to be filled in: the only values that are kept as they
stand and are no words. -/
def isNumberValue (token : Option Token) : Bool :=
  match token with
  | some (.number _ _) => true
  | some (.placeholder _) => true
  | some (.symbol _) => true
  | _ => false

/-- A number, or a place to be filled in. -/
def numberValue (d : Dialect) : Parser Expr := do
  let first ← front?
  let e ← value d
  if isNumberValue (first.map (·.token)) then return e
  throw (.unexpected "literal number" first)

/-- A number with a sign or without one. -/
def signedNumber (d : Dialect) : Parser Expr := do
  if ← symbol? "+" then return .unary "+" true (← numberValue d)
  if ← symbol? "-" then return .unary "-" true (← numberValue d)
  numberValue d

/-- A number in parentheses, if a parenthesis comes next. -/
def length? : Parser (Option Nat) := do
  if ← nextIs "(" then some <$> parenthesized (natural 64) else return none

/-- One number or two in parentheses, if a parenthesis comes next. -/
def precisionScale? : Parser (Option (Nat × Option Nat)) := do
  if ← nextIs "(" then
    parenthesized do
      let first ← natural 64
      if ← symbol? "," then return some (first, some (← natural 64))
      return some (first, none)
  else return none

end TableGraph.Sql.Parser
