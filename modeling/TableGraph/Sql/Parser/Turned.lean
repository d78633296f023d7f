/-
Reading tables that are turned, so that their rows become columns or the other way round.

A table can be turned again and again.  Each turn takes the table as it is written so far,
and may give it a new alias.
-/
import TableGraph.Sql.Parser.Source

namespace TableGraph.Sql.Parser

open TableGraph.Sql.Expr

/-- A function whose values fill a turned table. -/
def turnedFunction (g : Grammar) : Parser Expr := do
  match ← next? with
  | some (.word w) =>
    skip
    namedAs (← functionCall g [⟨w.text, none⟩])
  | _ =>
    skip
    fail "a function identifier"

/-- A table whose rows become columns. -/
def pivoted (g : Grammar) (table : Expr) : Parser Source := do
  symbol "("
  let functions ← commaSeparated (turnedFunction g)
  keyword "FOR"
  let column ← objectName
  keyword "IN"
  let values ← parenthesized do
    if ← keyword? "ANY" then return words (verbatim "ANY" :: (← order? g))
    if ← nextIsOneOf ["SELECT", "WITH"] then g.query
    else return listed (← commaSeparated (aliasedExpr g))
  let filler ← after? ["DEFAULT", "ON", "NULL"] (parenthesized g.whole)
  symbol ")"
  let turned := words ([listed functions, "FOR", ofName column, called "IN " values]
    ++ filler.toList.map fun e => called "DEFAULT ON NULL " e)
  Source.aliased g (words [table, called "PIVOT" turned])

/-- A table whose columns become rows. -/
def unpivoted (g : Grammar) (table : Expr) : Parser Source := do
  symbol "("
  let value ← ident
  keyword "FOR"
  let name ← ident
  keyword "IN"
  let columns ← columnList
  symbol ")"
  let turned := words [.path [value], "FOR", .path [name], called "IN " (ofIdents columns)]
  Source.aliased g (words [table, called "UNPIVOT" turned])

/-- A source after it has been turned as often as is said. -/
def turned (g : Grammar) (source : Source) : Parser Source :=
  loop (fun source => do
    match ← keywordOf? ["PIVOT", "UNPIVOT"] with
    | some "PIVOT" => some <$> pivoted g source.toExpr
    | some _ => some <$> unpivoted g source.toExpr
    | none => return none) source

end TableGraph.Sql.Parser
