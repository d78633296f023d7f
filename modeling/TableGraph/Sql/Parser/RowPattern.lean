/-
Reading patterns of rows.

A pattern is a choice between sequences.  A part of a sequence is a name for rows, or a
pattern in parentheses, with marks after it that say how often it is repeated; a sequence
ends only where its pattern does.
-/
import TableGraph.Sql.Parser.Expr

namespace TableGraph.Sql.Parser

open TableGraph.Sql.Expr

/-! ### Repetition -/

/-- How often something is repeated, after the brace that opens the bounds.  Bounds are
numbers of 32 bits, which is looked at once the brace is closed; all faults of numbers are
said to be where the bounds begin. -/
def repetitionBounds : Parser Expr := do
  match ← front? with
  | none => reject "quantifier range"
  | some opening =>
    let bound (digits : String) : Parser Expr := do
      return verbatim (toString (← valueOf 32 digits opening.location))
    let within (parts : List Expr) : Expr := joined ([verbatim "\x7b"] ++ parts ++ [verbatim "\x7d"])
    match ← digits? with
    | none =>
      unless ← symbol? "," do reject "quantifier range"
      match ← digits? with
      | none => reject "literal number"
      | some most =>
        symbol "\x7d"
        return within [",", ← bound most]
    | some least =>
      unless ← symbol? "," do
        symbol "\x7d"
        return within [← bound least]
      match ← digits? with
      | some most =>
        symbol "\x7d"
        return within [← bound least, ",", ← bound most]
      | none =>
        unless ← symbol? "\x7d" do reject "\x7d or upper bound"
        return within [← bound least, ","]

/-- A mark of repetition, if one comes next. -/
def repetition? : Parser (Option Expr) := do
  match ← next? with
  | some (.symbol "*") => skip; return some "*"
  | some (.symbol "+") => skip; return some "+"
  | some (.placeholder "?") => skip; return some "?"
  | some (.symbol "\x7b") => skip; some <$> repetitionBounds
  | _ => return none

/-! ### Patterns -/

/-- A part of a pattern without its marks of repetition; `pattern` reads what is inside. -/
def patternBase (pattern : Parser Expr) : Parser Expr := do
  match ← next? with
  | some (.symbol "^") => skip; return "^"
  | some (.placeholder "$") => skip; return "$"
  | some (.symbol "\x7b") =>
    skip
    symbol "-"
    let left ← identExpr
    symbol "-"
    symbol "\x7d"
    return joined ["\x7b- ", left, " -\x7d"]
  | some (.symbol "(") => return words ["(", ← parenthesized pattern, ")"]
  | some (.word ⟨"PERMUTE", none, _⟩) =>
    skip
    return called "PERMUTE" (listed (← parenthesized (commaSeparated identExpr)))
  | _ => identExpr

/-- A part of a pattern with its marks of repetition. -/
def patternPart (pattern : Parser Expr) : Parser Expr := do
  let base ← patternBase pattern
  return joined (base :: (← many repetition?))

/-- Parts of a pattern up to a bar or a closing parenthesis. -/
def patternSequence (pattern : Parser Expr) : Parser Expr := do
  let first ← patternPart pattern
  let others ← many do
    if (← nextIs ")") || (← nextIs "|") then return none else some <$> patternPart pattern
  return words (first :: others)

/-- A pattern; there are no more of them inside each other than tokens in `left`. -/
def patternWithin (left : List Lexeme) : Parser Expr := do
  let inner := match left with
    | [] => reject "identifier"
    | _ :: left => patternWithin left
  return .phrase " | " (← separatedBy "|" (patternSequence inner))

/-- A pattern of rows. -/
def rowPattern : Parser Expr := do patternWithin (← get)

end TableGraph.Sql.Parser
