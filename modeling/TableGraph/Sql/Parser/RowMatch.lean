/-
Reading tables that are made of the rows which match a pattern.

Rows are cut into groups and ordered first.  What is measured in a match, which of its rows
are kept, and where the search goes on come before the pattern; what the names in the
pattern stand for comes after it.
-/
import TableGraph.Sql.Parser.RowPattern
import TableGraph.Sql.Parser.Source

namespace TableGraph.Sql.Parser

open TableGraph.Sql.Expr

/-- A value that is taken from a match, and its name. -/
def measure (g : Grammar) : Parser Expr := do
  let e ← g.whole
  forget (keyword? "AS")
  return words [e, "AS", ← identExpr]

/-- Which rows of a match are kept, if it is said. -/
def keptRows? : Parser (List Expr) := do
  if ← phrase? ["ONE", "ROW", "PER", "MATCH"] then return [verbatim "ONE ROW PER MATCH"]
  if ← phrase? ["ALL", "ROWS", "PER", "MATCH"] then
    let rule ← phraseOf? [["SHOW", "EMPTY", "MATCHES"], ["OMIT", "EMPTY", "MATCHES"],
      ["WITH", "UNMATCHED", "ROWS"]]
    return verbatim "ALL ROWS PER MATCH" :: rule.toList.map verbatim
  return []

/-- Where the search for the next match goes on, if it is said. -/
def nextMatch? : Parser (List Expr) := do
  if ← phrase? ["AFTER", "MATCH", "SKIP"] then
    let rule ← phraseOf? [["PAST", "LAST", "ROW"], ["TO", "NEXT", "ROW"], ["TO", "FIRST"],
      ["TO", "LAST"]]
    match rule with
    | none => reject "after match skip option"
    | some words =>
      let said := verbatim ("AFTER MATCH SKIP " ++ words)
      if words == "TO FIRST" || words == "TO LAST" then return [said, ← identExpr]
      return [said]
  return []

/-- What a name in a pattern stands for. -/
def rowDefinition (g : Grammar) : Parser Expr := do
  let name ← identExpr
  keyword "AS"
  return words [name, "AS", ← g.whole]

/-- The rows of a table that match a pattern. -/
def matchedRows (g : Grammar) (table : Expr) : Parser Source := do
  let matching ← parenthesized do
    let groups ← clauseOf? ["PARTITION", "BY"] do return listed (← g.exprs)
    let order ← order? g
    let measures ← clauseOf? ["MEASURES"] do return listed (← commaSeparated (measure g))
    let kept ← keptRows?
    let next ← nextMatch?
    keyword "PATTERN"
    let pattern ← parenthesized rowPattern
    keyword "DEFINE"
    let definitions ← commaSeparated (rowDefinition g)
    return words (groups ++ order ++ measures ++ kept ++ next
      ++ [called "PATTERN " pattern, "DEFINE", listed definitions])
  Source.aliased g (words [table, called "MATCH_RECOGNIZE" matching])

end TableGraph.Sql.Parser
