/-
Reading what a query takes its rows from.

A parenthesis opens a query, or tables that are joined.  What it opens cannot be told from
the first token, so a query is tried first.  Where a single table may stand in parentheses,
an alias after them is the alias of the table, which must not have two of them.
-/
import TableGraph.Sql.Parser.Document
import TableGraph.Sql.Parser.RowMatch
import TableGraph.Sql.Parser.Turned

namespace TableGraph.Sql.Parser

open TableGraph.Sql.Expr

/-! ### Tables -/

/-- The hints for a table, if a parenthesis follows their word. -/
def hints? (g : Grammar) : Parser (List Expr) := do
  match ← get with
  | w :: ⟨.symbol "(", _⟩ :: _ =>
    if w.token.isKeyword "WITH" then
      skip
      return [called "WITH " (listed (← g.exprList))]
    return []
  | _ => return []

/-- A table, or a function that gives one. -/
def namedTable (g : Grammar) : Parser Source := do
  let name := ofName (← objectName)
  let parts ←
    if ← allowed (g.isOneOf [.mysql, .generic]) (keyword? "PARTITION") then
      pure [called "PARTITION " (ofIdents (← identList))]
    else pure []
  let arguments ← if ← symbol? "(" then pure [called "" (listed (← tableArguments g))] else pure []
  let ordinality := (← phraseOf? [["WITH", "ORDINALITY"]]).toList.map verbatim
  let source ← Source.aliased g (words (joined (name :: parts ++ arguments) :: ordinality))
  let source ← turned g { source with tail := ← hints? g }
  if ← allowed g.isGeneric (keyword? "MATCH_RECOGNIZE") then matchedRows g source.toExpr
  else return source

/-! ### Joins -/

/-- The condition of a join, if there is one. -/
def joinCondition (g : Grammar) : Parser (List Expr) := do
  if ← keyword? "ON" then return [words ["ON", ← g.whole]]
  if ← keyword? "USING" then return [called "USING" (ofIdents (← columnList))]
  return []

/-- The words of a join, and what they are written as, after `NATURAL` if `natural`. -/
def joinKind? (natural : Bool) : Parser (Option String) := do
  match ← keywordOf? ["INNER", "JOIN", "LEFT", "RIGHT", "FULL", "ANTI", "SEMI"] with
  | some "JOIN" => return some "JOIN"
  | some "INNER" => keyword "JOIN"; return some "JOIN"
  | some "ANTI" => keyword "JOIN"; return some "ANTI JOIN"
  | some "SEMI" => keyword "JOIN"; return some "SEMI JOIN"
  | some "FULL" =>
    let _ ← keyword? "OUTER"
    keyword "JOIN"
    return some "FULL JOIN"
  | some side =>
    match ← keywordOf? ["OUTER", "SEMI", "ANTI", "JOIN"] with
    | some "JOIN" => return some (side ++ " JOIN")
    | some "OUTER" => keyword "JOIN"; return some (side ++ " JOIN")
    | some kind => keyword "JOIN"; return some (side ++ " " ++ kind ++ " JOIN")
    | none => remark ("expected OUTER, SEMI, ANTI or JOIN after " ++ side) none
  | none =>
    if ← nextIsKeyword "OUTER" then fail "LEFT, RIGHT, or FULL"
    if natural then fail "a join type after NATURAL"
    return none

/-- A table that is joined to what stands before it, if there is one. -/
def join? (g : Grammar) (factor : Parser Source) : Parser (Option Expr) := do
  let global := (← phraseOf? [["GLOBAL"]]).toList.map verbatim
  let joinedBy (word : String) (rest : List Expr) : Expr := words (global ++ verbatim word :: rest)
  if ← keyword? "CROSS" then
    match ← keywordOf? ["JOIN", "APPLY"] with
    | some word => return some (joinedBy ("CROSS " ++ word) [(← factor).toExpr])
    | none => fail "JOIN or APPLY after CROSS"
  if ← keyword? "OUTER" then
    keyword "APPLY"
    return some (joinedBy "OUTER APPLY" [(← factor).toExpr])
  if ← keyword? "ASOF" then
    keyword "JOIN"
    let table := (← factor).toExpr
    keyword "MATCH_CONDITION"
    let matched := called "MATCH_CONDITION " (← parenthesized g.whole)
    return some (joinedBy "ASOF JOIN" ([table, matched] ++ (← joinCondition g)))
  let natural ← keyword? "NATURAL"
  match ← joinKind? natural with
  | none => return none
  | some word =>
    let table := (← factor).toExpr
    if natural then return some (joinedBy ("NATURAL " ++ word) [table])
    return some (joinedBy word (table :: (← joinCondition g)))

/-- A table with those that are joined to it. -/
def joinedTo (g : Grammar) (factor : Parser Source) : Parser (Source × List Expr) := do
  let first ← factor
  return (first, ← many (join? g factor))

/-- What stands in parentheses, the first of which has been taken; `factor` reads a table
inside them. -/
def enclosedSource (g : Grammar) (factor : Parser Source) : Parser Source := do
  match ← attempt (derivedTable g false) with
  | some source => turned g source
  | none =>
    let (first, joins) ← joinedTo g factor
    if !joins.isEmpty || first.isJoin then
      symbol ")"
      let source ← Source.aliased g (.parentheses [words (first.toExpr :: joins)])
      return { source with isJoin := true }
    else if g.isGeneric then
      symbol ")"
      match first.aliasName, ← tableAlias? g with
      | _, none => return first
      | none, outer => return { first with aliasName := outer }
      | some inner, some _ => remark ("duplicate alias " ++ inner.render) none
    else fail "joined table"

/-- The word and the parenthesis come next. -/
def nextIsCall (k : String) : Parser Bool := do
  match ← get with
  | w :: ⟨.symbol "(", _⟩ :: _ => return w.token.isKeyword k
  | _ => return false

/-- Takes the word and the parenthesis if they come next. -/
def callOf? (k : String) : Parser Bool := do
  let found ← nextIsCall k
  if found then skip; skip
  return found

/-- The rows that stand for themselves, after their word; a row may be empty if `empty`
says so. -/
def rows (g : Grammar) (empty : Bool) : Parser Expr := do
  let rows ← commaSeparated do
    let marked ← keyword? "ROW"
    let row ← parenthesized (if empty then commaSeparatedUntil ")" g.whole else g.exprs)
    return (marked, row)
  let mark := if rows.any (·.1) then "ROW" else ""
  return words ["VALUES", listed (rows.map fun (_, row) => called mark (listed row))]

/-- A table, or what stands for one; there are no more parentheses inside each other than
tokens in `left`. -/
def sourceWithin (g : Grammar) (left : List Lexeme) : Parser Source := do
  let inner := match left with
    | [] => reject "identifier"
    | _ :: left => sourceWithin g left
  if ← keyword? "LATERAL" then lateralSource g
  else if ← keyword? "TABLE" then
    Source.aliased g (called "TABLE" (← parenthesized g.whole))
  else if ← symbol? "(" then enclosedSource g inner
  else if g.isGeneric && (← nextIsCall "VALUES") then
    skip
    Source.aliased g (.subquery (← rows g false))
  else if ← allowed (g.isOneOf [.postgresql, .generic]) (keyword? "UNNEST") then unnested g
  else if ← callOf? "JSON_TABLE" then documentTable g
  else if ← callOf? "OPENJSON" then openedDocument g
  else namedTable g

/-- A table with those that are joined to it. -/
def joinedTables (g : Grammar) : Parser Expr := do
  let (first, joins) ← joinedTo g (sourceWithin g (← get))
  return words (first.toExpr :: joins)

end TableGraph.Sql.Parser
