/-
Reading the constraints of a table.

A constraint is known by its first word, after its name if it has one.  Indexes are declared
like constraints in some dialects, and have no name of a constraint.
-/
import TableGraph.Sql.Parser.Column

namespace TableGraph.Sql.Parser

/-- How an index is built, if that is said. -/
def indexType? : Parser Unit := do
  if ← keyword? "USING" then
    if (← keywordOf? ["BTREE", "HASH"]).isNone then fail "index type \x7bBTREE | HASH\x7d"

/-- The options of an index. -/
def indexOptions (g : Grammar) : Parser Unit :=
  forget <| many do
    if ← nextIsKeyword "USING" then
      indexType?
      return some ()
    if ← keyword? "COMMENT" then
      forget (literalText g.dialect)
      return some ()
    return none

/-- Columns that are indexed, and what is said about the index. -/
def indexedColumns (g : Grammar) : Parser (List Ident) := do
  forget (attempt ident)
  indexType?
  let columns ← columnList
  indexOptions g
  forget timing
  return columns

/-- Whether empty values are distinct, if that is said. -/
def nullsDistinct : Parser Unit := do
  if ← keyword? "NULLS" then
    let _ ← keyword? "NOT"
    keyword "DISTINCT"

/-- The dialect declares indexes in the body of a table. -/
def hasTableIndexes (d : Dialect) : Bool := d == .mysql || d == .generic

/-- The index that a word declares, if it does; the word stands at `place`, after the name of
a constraint if there is one. -/
def tableIndex? (name : Option Ident) (place : Option Location) :
    Parser (Option TableConstraint) := do
  if name.isNone then
    if (← keywordOf? ["INDEX", "KEY"]).isSome then
      let indexName ← if ← nextIsKeyword "USING" then pure none else attempt ident
      indexType?
      return some (.index indexName (← columnList))
  if (← keywordOf? ["FULLTEXT", "SPATIAL"]).isSome then
    match name, place with
    | some n, some place =>
      throw (.unexpected "FULLTEXT or SPATIAL option without constraint name"
        (some ⟨.word (.bare n.render), place⟩))
    | _, _ =>
      let _ ← keywordOf? ["KEY", "INDEX"]
      let indexName ← attempt ident
      return some (.index indexName (← columnList))
  return none

/-- A constraint whose name has been read. -/
def namedConstraint? (g : Grammar) (name : Option Ident) : Parser (Option TableConstraint) := do
  let place ← place?
  if ← keyword? "UNIQUE" then
    if (← keywordOf? ["KEY", "INDEX"]).isSome && !hasTableIndexes g.dialect then
      fail "\x60index_name\x60 or \x60(column_name [, ...])\x60"
    nullsDistinct
    return some (.unique name (← indexedColumns g))
  if ← keyword? "PRIMARY" then
    keyword "KEY"
    return some (.primaryKey name (← indexedColumns g))
  if ← keyword? "FOREIGN" then
    keyword "KEY"
    let columns ← columnList
    keyword "REFERENCES"
    return some (.foreignKey name columns (← reference columnList))
  if ← keyword? "CHECK" then return some (.check name (← parenthesized g.whole))
  if hasTableIndexes g.dialect then
    if let some index ← tableIndex? name place then return some index
  if name.isSome then reject "PRIMARY, UNIQUE, FOREIGN, or CHECK"
  return none

/-- A constraint of a table. -/
def tableConstraint? (g : Grammar) : Parser (Option TableConstraint) := do
  let name ← after? ["CONSTRAINT"] ident
  namedConstraint? g name

end TableGraph.Sql.Parser
