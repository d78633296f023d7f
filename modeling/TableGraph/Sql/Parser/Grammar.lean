/-
The parts of the grammar that contain each other.

Expressions hold queries, and queries hold expressions.  Both are read up to a fixed depth,
so a parser of one of them is given the parsers of what may stand inside: those for the next
depth.  What follows the type of a column holds expressions too, and types can hold columns.
-/
import TableGraph.Sql.Parser.Basic
import TableGraph.Sql.Dialect
import TableGraph.Sql.Expr

namespace TableGraph.Sql.Parser

/-- How deep statements, queries and expressions may be inside each other. -/
def depthLimit : Nat := 50

/-- How what may be inside is read in a dialect. -/
structure Grammar where
  dialect : Dialect
  /-- `PRIOR` marks a column of the row above. -/
  related : Bool := false
  /-- An expression whose operators bind stronger than a given strength. -/
  expr : Nat → Parser Expr
  query : Parser Expr
  /-- An expression that relates a row to the row above. -/
  relation : Parser Expr
  /-- What follows the type of a column. -/
  columnTail : Parser Expr

namespace Grammar

/-- A whole expression. -/
def whole (g : Grammar) : Parser Expr := g.expr 0

/-- Expressions with commas between them. -/
def exprs (g : Grammar) : Parser (List Expr) := commaSeparated g.whole

/-- Expressions in parentheses. -/
def exprList (g : Grammar) : Parser (List Expr) := parenthesized g.exprs

/-- The dialect is one of these. -/
def isOneOf (g : Grammar) (ds : List Dialect) : Bool := ds.contains g.dialect

/-- The dialect is the one that has nearly every form. -/
def isGeneric (g : Grammar) : Bool := g.dialect == .generic

end Grammar

end TableGraph.Sql.Parser
