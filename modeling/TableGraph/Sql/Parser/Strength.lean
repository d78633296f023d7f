/-
How strongly operators bind.

An operator has a level, and each dialect orders the levels by numbers.  Most dialects share
one order; in the other one the operators that users may define stand above comparisons, and
so do a few others that are below them elsewhere.
-/
import TableGraph.Sql.Lexer

namespace TableGraph.Sql.Parser

/-- The levels of operators. -/
inductive Level
  | disjunction
  | conjunction
  | negation
  | test
  | comparison
  | range
  | pattern
  | other
  | bitOr
  | bitAnd
  | exclusive
  | sum
  | product
  | power
  | zone
  | collation
  | subscript
  | cast
deriving Repr, DecidableEq

namespace Level

/-- How strongly the operators of a level bind in most dialects. -/
def usual : Level → Nat
  | disjunction => 5
  | conjunction => 10
  | negation => 15
  | other => 16
  | test => 17
  | pattern => 19
  | comparison => 20
  | range => 20
  | bitOr => 21
  | power => 22
  | bitAnd => 23
  | exclusive => 24
  | sum => 30
  | product => 40
  | zone => 41
  | collation => 0
  | subscript => 50
  | cast => 50

/-- How strongly the operators of a level bind where operators are free. -/
def free : Level → Nat
  | disjunction => 10
  | conjunction => 20
  | negation => 30
  | test => 40
  | comparison => 50
  | range => 60
  | pattern => 60
  | other => 70
  | bitOr => 70
  | bitAnd => 70
  | exclusive => 75
  | sum => 80
  | product => 90
  | power => 100
  | zone => 110
  | collation => 120
  | subscript => 130
  | cast => 140

/-- How strongly the operators of a level bind. -/
def strength (d : Dialect) (level : Level) : Nat :=
  if d.hasFreeOperators then level.free else level.usual

end Level

/-- The words that compare with a pattern. -/
def patternWords : List String := ["LIKE", "ILIKE", "RLIKE", "REGEXP", "SIMILAR"]

/-- The levels of the operators in symbols. -/
def symbolLevels : List (Level × List String) := [
  (.cast, ["::", "!", "&&", "^@"]),
  (.subscript, ["["]),
  (.product, ["*", "/", "//", "%", "||"]),
  (.sum, ["+", "-"]),
  (.bitAnd, ["&"]),
  (.power, ["^", "#", "<<", ">>"]),
  (.bitOr, ["|"]),
  (.comparison, ["=", "==", "<>", "<", "<=", ">", ">=", "<=>", "~", "~*", "!~", "!~*", "~~",
    "~~*", "!~~", "!~~*"]),
  (.other, ["->", "->>", "#>", "#>>", "@>", "<@", "#-", "@?", "@@", "?", "?&", "?|"])]

/-- The operators that bind like those of users where operators are free. -/
def demotedOperators : List String := ["!", "&&", "^@", "||", "#", "<<", ">>"]

/-- The levels of the operators in words. -/
def wordLevels : List (Level × List String) := [
  (.product, ["DIV"]),
  (.exclusive, ["XOR"]),
  (.range, ["IN", "BETWEEN", "OPERATOR"]),
  (.pattern, patternWords),
  (.test, ["IS"]),
  (.conjunction, ["AND"]),
  (.disjunction, ["OR"]),
  (.collation, ["COLLATE"])]

/-- The level of an operator in symbols. -/
def symbolLevel? (d : Dialect) (s : String) : Option Level :=
  if d.hasFreeOperators && demotedOperators.contains s then some .other
  else
    match symbolLevels.find? (·.2.contains s) with
    | some (level, _) => some level
    | none =>
      if d.hasFreeOperators && s.toList.all isOperatorChar && !operators.contains s then
        some .other
      else none

/-- The level of the operator that a word begins, given the tokens after it. -/
def wordLevel? (w : Word) (rest : List Lexeme) : Option Level :=
  if w.isKeyword "NOT" then
    match rest with
    | ⟨.word w', _⟩ :: _ =>
      if w'.isOneOf ["IN", "BETWEEN"] then some .range
      else if w'.isOneOf patternWords then some .pattern
      else none
    | _ => none
  else if w.isKeyword "AT" then
    match rest with
    | t :: z :: _ =>
      if t.token.isKeyword "TIME" && z.token.isKeyword "ZONE" then some .zone else none
    | _ => none
  else (wordLevels.find? fun (_, ks) => w.isOneOf ks).map (·.1)

/-- The strength of the operator that the tokens begin with; 0 if they begin with none. -/
def strength (d : Dialect) (tokens : List Lexeme) : Nat :=
  let level? := match tokens with
    | ⟨.symbol s, _⟩ :: _ => symbolLevel? d s
    | ⟨.word w, _⟩ :: rest => wordLevel? w rest
    | _ => none
  (level?.map (·.strength d)).getD 0

end TableGraph.Sql.Parser
