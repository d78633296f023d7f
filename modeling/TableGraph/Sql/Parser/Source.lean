/-
Reading single sources of rows, and the aliases after them.

A source is followed by its alias, and a few things come after the alias.  So the alias is
kept apart: a source that is put in parentheses may get its alias only there, and two of
them are too many.
-/
import TableGraph.Sql.Parser.Expr

namespace TableGraph.Sql.Parser

open TableGraph.Sql.Expr

/-! ### Aliases -/

/-- The words that are no alias of a table unless `AS` stands before them. -/
def tableAliasStops : List String := [
  "WITH", "EXPLAIN", "ANALYZE", "SELECT", "WHERE", "GROUP", "SORT", "HAVING", "ORDER", "PIVOT",
  "UNPIVOT", "TOP", "LATERAL", "VIEW", "LIMIT", "OFFSET", "FETCH", "UNION", "EXCEPT",
  "INTERSECT", "ON", "JOIN", "INNER", "CROSS", "FULL", "LEFT", "RIGHT", "NATURAL", "USING",
  "ASOF", "CLUSTER", "DISTRIBUTE", "GLOBAL", "ANTI", "SEMI", "OUTER", "SET",
  "QUALIFY", "WINDOW", "END", "FOR", "PARTITION", "PREWHERE", "SETTINGS", "FORMAT", "START",
  "CONNECT", "MATCH_RECOGNIZE"]

/-- The words that are no alias of a column unless `AS` stands before them. -/
def columnAliasStops : List String := [
  "WITH", "EXPLAIN", "ANALYZE", "SELECT", "WHERE", "GROUP", "SORT", "HAVING", "ORDER", "TOP",
  "LATERAL", "VIEW", "LIMIT", "OFFSET", "FETCH", "UNION", "EXCEPT", "INTERSECT", "CLUSTER",
  "DISTRIBUTE", "RETURNING", "FROM", "INTO", "END"]

/-- An alias, if one comes next. -/
def alias? (stops : List String) : Parser (Option Expr) := do
  let marked ← keyword? "AS"
  let named : Bool := match ← next? with
    | some (.word w) => marked || !w.isOneOf stops
    | some (.text kind _) => kind == .single || kind == .double
    | _ => false
  if named then return some (← identExpr)
  if marked then reject "an identifier after AS"
  return none

/-- A name, which may have the name of something else after it. -/
def namedAs (name : Expr) : Parser Expr := do
  return words (name :: preceded "AS" ((← after? ["AS"] ident).map fun i => .path [i]))

/-- An expression with an alias if it has one. -/
def aliasedExpr (g : Grammar) : Parser Expr := do namedAs (← g.whole)

/-- The columns of an alias, whose types may be said. -/
def aliasColumns? (g : Grammar) : Parser (List Expr) := do
  if ← nextIs "(" then
    parenthesized (commaSeparated do
      let name ← ident
      let type ← attempt (dataType g)
      return words (.path [name] :: type.toList.map Expr.type))
  else return []

/-- The name of a table and its columns. -/
def withColumns (name : Expr) (columns : List Expr) : Expr :=
  if columns.isEmpty then name else joined [name, " (", listed columns, ")"]

/-- An alias of a table, if one comes next. -/
def tableAlias? (g : Grammar) : Parser (Option Expr) := do
  match ← alias? tableAliasStops with
  | some name => return some (withColumns name (← aliasColumns? g))
  | none => return none

/-! ### Sources of rows -/

/-- What rows are taken from: what is before its alias and after it, and whether it is made
of tables that are joined in parentheses. -/
structure Source where
  head : Expr
  aliasName : Option Expr := none
  tail : List Expr := []
  isJoin : Bool := false

namespace Source

/-- A source with the alias that comes next. -/
def aliased (g : Grammar) (head : Expr) : Parser Source := do
  return { head, aliasName := ← tableAlias? g }

/-- The source as it is written. -/
def toExpr (s : Source) : Expr := words (s.head :: preceded "AS" s.aliasName ++ s.tail)

end Source

/-- Names and values that a query is run with, if the dialect has them. -/
def settings? (g : Grammar) : Parser (List Expr) := do
  if !g.isGeneric then return []
  if ← keyword? "SETTINGS" then
    let settings ← commaSeparated do
      let name ← ident
      symbol "="
      return words [.path [name], "=", ← value g.dialect]
    return clause "SETTINGS" settings
  return []

/-- The arguments of a function, after the parenthesis that opens them. -/
def plainArguments (g : Grammar) : Parser (List Expr) := do
  let arguments ← commaSeparatedUntil ")" (argument g)
  symbol ")"
  return arguments

/-- The arguments of a table that is a function, after the parenthesis that opens them; the
last of them may be settings. -/
def tableArguments (g : Grammar) : Parser (List Expr) := do
  if ← symbol? ")" then return []
  let step (found : List Expr) : Parser (List Expr × Bool) := do
    match ← settings? g with
    | [] => let a ← argument g; return (a :: found, ← symbol? ",")
    | s => return (s ++ found, false)
  let (found, _) ← loop (fun (found, more) => do
    if more then some <$> step found else return none) (← step [])
  symbol ")"
  return found.reverse

/-- A query in parentheses, the first of which has been taken. -/
def derivedTable (g : Grammar) (lateral : Bool) : Parser Source := do
  let query ← g.query
  symbol ")"
  let source : Expr := .subquery query
  Source.aliased g (if lateral then words ["LATERAL", source] else source)

/-- What follows `LATERAL`. -/
def lateralSource (g : Grammar) : Parser Source := do
  if ← symbol? "(" then derivedTable g true
  else
    let name ← objectName
    symbol "("
    let arguments ← plainArguments g
    Source.aliased g (words ["LATERAL", joined [ofName name, "(", listed arguments, ")"]])

/-- Arrays that are rows, after their word.  A `WITH` that says nothing is passed over. -/
def unnested (g : Grammar) : Parser Source := do
  let arrays ← g.exprList
  let ordinality := (← phraseOf? [["WITH", "ORDINALITY"]]).toList.map verbatim
  let source ← Source.aliased g (words (called "UNNEST" (listed arrays) :: ordinality))
  let offset ← if ← keyword? "WITH" then keyword? "OFFSET" else pure false
  if offset then
    return { source with
      tail := verbatim "WITH OFFSET" :: preceded "AS" (← alias? columnAliasStops) }
  return source

end TableGraph.Sql.Parser
