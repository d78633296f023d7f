/-
Reading expressions.

An expression is an operand with operators after it.  An operator is taken if it binds
stronger than what stands before the operand, and its own right side is read in the same
way, so the tree follows the strengths of the operators.

A few operators have a strength in every dialect but a meaning in some dialects only.
-/
import TableGraph.Sql.Parser.Operand

namespace TableGraph.Sql.Parser

open TableGraph.Sql.Expr

/-! ### Operators without a meaning -/

/-- Operators in symbols that not every dialect has, with their names and the dialects that
have them. -/
def rareOperators : List (String × String × List Dialect) := [
  ("!", "ExclamationMark", [.postgresql]),
  ("&&", "Overlap", [.postgresql, .generic]),
  ("^@", "CaretAt", [.postgresql, .generic]),
  ("#", "Sharp", [.postgresql]),
  ("<<", "ShiftLeft", [.postgresql, .generic]),
  (">>", "ShiftRight", [.postgresql, .generic])]

/-- The word is an operator that the dialect does not have. -/
def isForeignWord (d : Dialect) (w : Word) : Bool :=
  w.isOneOf ["DIV", "COLLATE"] || (w.isKeyword "OPERATOR" && (d == .mysql || d == .sqlite))

/-- The name of the operator, if the dialect does not have it. -/
def foreignOperator? (d : Dialect) (token : Token) : Option String :=
  match token with
  | .symbol s =>
    match rareOperators.lookup s with
    | some (name, ds) => if ds.contains d then none else some name
    | none => none
  | .word w =>
    if isForeignWord d w then
      some ("Word(Word \x7b value: \"" ++ w.text ++ "\", quote_style: None, keyword: "
        ++ w.capitals ++ " \x7d)")
    else none
  | _ => none

/-! ### Tests -/

/-- What may follow `IS` and needs nothing after it. -/
def tests : List (List String) := [
  ["NULL"], ["NOT", "NULL"], ["TRUE"], ["NOT", "TRUE"], ["FALSE"], ["NOT", "FALSE"], ["UNKNOWN"],
  ["NOT", "UNKNOWN"]]

/-- A test of what is on the left, after `IS`. -/
def test (g : Grammar) (left : Expr) : Parser Expr := do
  if let some found ← phraseOf? tests then return words [left, "IS", .verbatim found]
  match ← phraseOf? [["DISTINCT", "FROM"], ["NOT", "DISTINCT", "FROM"]] with
  | some found => return words [left, "IS", .verbatim found, ← g.whole]
  | none => fail "[NOT] NULL or TRUE|FALSE or [NOT] DISTINCT FROM after IS"

/-- The values among which what is on the left has to be, after `IN`. -/
def membership (g : Grammar) : Parser Expr := do
  if ← keyword? "UNNEST" then return words ["IN", called "UNNEST" (← parenthesized g.whole)]
  parenthesized do
    if ← nextIsOneOf ["SELECT", "WITH"] then return words ["IN", .subquery (← g.query)]
    let items ← if g.dialect == .sqlite then commaSeparatedUntil ")" g.whole else g.exprs
    return words ["IN", .parentheses items]

/-- The ends of a range, after `BETWEEN`. -/
def range (g : Grammar) : Parser Expr := do
  let strength := Level.range.strength g.dialect
  let low ← g.expr strength
  keyword "AND"
  return words ["BETWEEN", low, "AND", ← g.expr strength]

/-- A pattern after the word that compares with it, and the character that takes the meaning
of the one after it.  The mark of a choice of patterns is close to them if the case of letters
does not count and there is such a character. -/
def patternTest (g : Grammar) (word : String) : Parser Expr := do
  let choice ← if word == "SIMILAR TO" then pure false else keyword? "ANY"
  let pattern ← g.expr (Level.pattern.strength g.dialect)
  let escape ← after? ["ESCAPE"] (literalText g.dialect)
  let close := word == "ILIKE" && escape.isSome
  let marked := if choice then .unary "ANY" close pattern else pattern
  return words ([.verbatim word, marked]
    ++ escape.toList.map fun c => .verbatim ("ESCAPE '" ++ c ++ "'"))

/-- A comparison of what is on the left with a range, a list or a pattern; `NOT` may be
before it. -/
def comparison (g : Grammar) (left : Expr) : Parser Expr := do
  let negated ← keyword? "NOT"
  let said (right : Expr) : Expr :=
    words ([left] ++ (if negated then [verbatim "NOT"] else []) ++ [right])
  let pattern := g.expr (Level.pattern.strength g.dialect)
  if ← keyword? "REGEXP" then
    forget (keyword? "RLIKE")
    return said (words ["REGEXP", ← pattern])
  if ← keyword? "RLIKE" then return said (words ["RLIKE", ← pattern])
  if ← keyword? "IN" then return said (← membership g)
  if ← keyword? "BETWEEN" then return said (← range g)
  if ← keyword? "LIKE" then return said (← patternTest g "LIKE")
  if ← keyword? "ILIKE" then return said (← patternTest g "ILIKE")
  if ← phrase? ["SIMILAR", "TO"] then return said (← patternTest g "SIMILAR TO")
  fail "IN or BETWEEN after NOT"

/-! ### Parts of a value -/

/-- The place in a value, or the range of places, after the bracket that opens it. -/
def places (g : Grammar) : Parser Expr := do
  let lower ← if ← symbol? ":" then pure none else some <$> g.whole
  if ← symbol? "]" then return (lower.getD ":")
  if lower.isSome then symbol ":"
  let upTo (parts : List Expr) : Expr := joined (lower.toList ++ [verbatim ":"] ++ parts)
  if ← symbol? "]" then return upTo []
  let upper ← g.whole
  if ← symbol? "]" then return upTo [upper]
  symbol ":"
  if ← symbol? "]" then return upTo [upper]
  let step ← g.whole
  symbol "]"
  return upTo [upper, ":", step]

/-- A part of what is on the left, after the bracket that opens it. -/
def element (g : Grammar) (left : Expr) : Parser Expr := do
  if g.isOneOf [.postgresql, .generic] then return joined [left, "[", ← places g, "]"]
  let place ← g.whole
  symbol "]"
  return joined [left, "[", place, "]"]

/-! ### Operators -/

/-- The operator of a user's that is named in parentheses. -/
def namedOperator : Parser String := do
  let parts ← parenthesized (separatedBy "." do
    let found ← front?
    skip
    return foundText found)
  return "OPERATOR(" ++ ".".intercalate parts ++ ")"

/-- The operators in words that stand between two operands. -/
def wordOperators : List String := ["AND", "OR", "XOR"]

/-- Takes an operator that stands between two operands, if the token is one. -/
def betweenOperands? : Parser (Option String) := do
  match ← next? with
  | some (.symbol "==") => skip; return some "="
  | some (.symbol s) =>
    if ["::", "[", "!"].contains s then return none
    skip
    return some s
  | some (.word _) =>
    if let some word ← keywordOf? wordOperators then return some word
    if ← keyword? "OPERATOR" then return some (← namedOperator)
    return none
  | _ => return none

/-- The operators that compare with each value of a collection. -/
def comparisons : List String := ["=", "<>", "<", ">", "<=", ">="]

/-- The right side of an operator that stands at `place` and compares with some value of a
collection, or with all. -/
def quantified (g : Grammar) (left : Expr) (operator quantifier : String)
    (place : Option Location) (strength : Nat) : Parser Expr := do
  let opening ← get
  symbol "("
  let right ←
    if ← nextIsOneOf ["SELECT", "WITH"] then
      set opening
      g.expr strength
    else
      let right ← g.expr strength
      symbol ")"
      pure right
  unless comparisons.contains operator do
    remark ("Expected one of [=, >, <, =>, =<, !=] as comparison operator, found: " ++ operator)
      place
  let collection := match right with
    | .subquery query => .subquery query
    | other => .parentheses [other]
  return .binary left operator (joined [.verbatim quantifier, collection])

/-- What is made of an operand and the operator after it, which has this strength. -/
def operation (g : Grammar) (left : Expr) (strength : Nat) : Parser Expr := do
  let place ← place?
  if g.dialect == .mysql then
    if ← keyword? "DIV" then return .binary left "DIV" (← g.whole)
  if let some name := (← next?).bind (foreignOperator? g.dialect) then
    skip
    remark ("No infix parser for token " ++ name) place
  match ← betweenOperands? with
  | some operator =>
    match ← keywordOf? ["ANY", "ALL", "SOME"] with
    | some quantifier => quantified g left operator quantifier place strength
    | none => return .binary left operator (← g.expr strength)
  | none =>
    if ← keyword? "IS" then test g left
    else if ← phrase? ["AT", "TIME", "ZONE"] then
      return .binary left "AT TIME ZONE" (← g.expr strength)
    else if ← symbol? "::" then return joined [left, "::", .type (← dataType g)]
    else if ← symbol? "!" then return joined [left, "!"]
    else if ← symbol? "[" then element g left
    else comparison g left

/-- An expression whose operators bind stronger than `strength`. -/
def exprAbove (g : Grammar) (least : Nat) : Parser Expr := do
  loop (fun left => do
    let found := strength g.dialect (← get)
    if found ≤ least then return none
    some <$> operation g left found) (← operand g)

end TableGraph.Sql.Parser
