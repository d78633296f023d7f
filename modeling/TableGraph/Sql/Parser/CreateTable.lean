/-
Reading statements that create tables.

An item in the body of such a statement is first tried as a constraint, and is a column
if it does not begin like one.  So the words that begin a constraint cannot be columns
unless they are quoted.

What may be said after the body comes in one order; most of it says how the table is
stored, and is only checked for its form.
-/
import TableGraph.Sql.Parser.Constraint

namespace TableGraph.Sql.Parser

/-! ### Bodies -/

/-- The columns and constraints of a table, each with the last first. -/
structure Body where
  columns : List ColumnDef := []
  constraints : List TableConstraint := []

/-- Reads an item of a body. -/
def bodyItem (g : Grammar) (b : Body) : Parser Body := do
  match ← tableConstraint? g with
  | some c => return { b with constraints := c :: b.constraints }
  | none =>
    match ← next? with
    | some (.word _) => return { b with columns := (← columnDef g) :: b.columns }
    | _ => fail "column name or constraint definition"

/-- Reads one more item of a body, if a comma says that there is one. -/
def bodyStep (g : Grammar) (b : Body) : Parser (Option Body) := do
  if ← symbol? "," then return some (← bodyItem g b)
  unless ← nextIs ")" do fail "',' or ')' after column definition"
  return none

/-- The body of a table, which may be left out. -/
def tableBody (g : Grammar) : Parser Body := do
  if ← symbol? "(" then
    if ← symbol? ")" then return {}
    let b ← loop (bodyStep g) (← bodyItem g {})
    symbol ")"
    return { columns := b.columns.reverse, constraints := b.constraints.reverse }
  else return {}

/-! ### Storage in files -/

/-- The columns by whose values a table is cut into files. -/
def partitionColumns (g : Grammar) : Parser Unit := do
  if ← phrase? ["PARTITIONED", "BY"] then forget (parenthesized (commaSeparated (columnDef g)))

/-- The columns by whose values rows are put into buckets, if the dialect has them. -/
def buckets (g : Grammar) : Parser Unit := do
  if g.isGeneric then
    if ← phrase? ["CLUSTERED", "BY"] then
      forget columnList
      if ← phrase? ["SORTED", "BY"] then forget (parenthesized (orderedExprs g))
      keyword "INTO"
      forget (numberValue g.dialect)
      keyword "BUCKETS"

/-- The words after which a row's parts end, each with what follows it. -/
def delimiterWords : List (String × List String) := [
  ("FIELDS", ["TERMINATED", "BY"]), ("COLLECTION", ["ITEMS", "TERMINATED", "BY"]),
  ("MAP", ["KEYS", "TERMINATED", "BY"]), ("LINES", ["TERMINATED", "BY"]),
  ("NULL", ["DEFINED", "AS"])]

/-- The characters that end the parts of a row. -/
def delimiters : Parser Unit :=
  forget <| many do
    match ← keywordOf? (delimiterWords.map (·.1)) with
    | none => return none
    | some word =>
      if ← phrase? ((delimiterWords.lookup word).getD []) then
        forget ident
        if word == "FIELDS" then
          if ← phrase? ["ESCAPED", "BY"] then forget ident
        return some ()
      return none

/-- The form of a row in a file. -/
def rowFormat (g : Grammar) : Parser Unit := do
  keyword "FORMAT"
  match ← keywordOf? ["SERDE", "DELIMITED"] with
  | some "SERDE" => forget (literalText g.dialect)
  | _ => delimiters

/-- How a table is stored in files. -/
def storage (g : Grammar) : Parser Unit :=
  forget <| many do
    match ← keywordOf? ["ROW", "STORED", "LOCATION"] with
    | some "ROW" => rowFormat g; return some ()
    | some "STORED" =>
      keyword "AS"
      if ← keyword? "INPUTFORMAT" then
        forget g.whole
        keyword "OUTPUTFORMAT"
        forget g.whole
      else forget fileFormat
      return some ()
    | some _ => forget (literalText g.dialect); return some ()
    | none =>
      if ← phrase? ["WITH", "SERDEPROPERTIES"] then
        forget (parenthesized (commaSeparated (namedOption g)))
        return some ()
      return none

/-! ### Other options -/

/-- A word after a sign of equality. -/
def equalsWord : Parser Unit := do
  symbol "="
  forget anyWord

/-- The engine that keeps a table. -/
def engine : Parser Unit := do
  if ← keyword? "ENGINE" then
    equalsWord
    if ← nextIs "(" then forget identList

/-- The order in which rows are kept. -/
def storedOrder (g : Grammar) : Parser Unit := do
  if ← phrase? ["ORDER", "BY"] then
    if ← symbol? "(" then
      forget (commaSeparatedUntil ")" g.whole)
      symbol ")"
    else forget g.whole

/-- How a table is cut into parts and grouped. -/
def parts (g : Grammar) : Parser Unit := do
  if g.isOneOf [.postgresql, .generic] then
    if ← phrase? ["PARTITION", "BY"] then forget g.whole
  if g.isGeneric then
    if ← phrase? ["CLUSTER", "BY"] then forget (commaSeparated ident)
    forget (optionsAfter? g "OPTIONS")

/-- A remark on a table. -/
def tableComment : Parser Unit := do
  if ← keyword? "COMMENT" then
    let _ ← symbol? "="
    forget (singleText "comment")

/-- What is said about the rows of a table that does not last. -/
def commitRules : List (List String) := [
  ["ON", "COMMIT", "DELETE", "ROWS"], ["ON", "COMMIT", "PRESERVE", "ROWS"], ["ON", "COMMIT", "DROP"]]

/-- What may be said after the body of a table. -/
def tableOptions (g : Grammar) : Parser Unit := do
  let _ ← phrase? ["WITHOUT", "ROWID"]
  partitionColumns g
  buckets g
  storage g
  forget (optionsAfter? g "WITH")
  forget (optionsAfter? g "TBLPROPERTIES")
  engine
  if ← keyword? "AUTO_INCREMENT" then
    let _ ← symbol? "="
    forget (natural 32)
  if g.isGeneric then
    if ← phrase? ["PRIMARY", "KEY"] then forget g.whole
  storedOrder g
  parts g
  if ← phrase? ["DEFAULT", "CHARSET"] then equalsWord
  if ← keyword? "COLLATE" then equalsWord
  forget (phraseOf? commitRules)
  let _ ← keyword? "STRICT"
  tableComment

/-! ### Statements -/

/-- The machines that an object is for, if they are named. -/
def onCluster : Parser Unit := do
  if ← phrase? ["ON", "CLUSTER"] then forget ident

/-- The words that an object may be there already come next and are taken. -/
def ifNotExists : Parser Unit := forget (phrase? ["IF", "NOT", "EXISTS"])

/-- What follows `CREATE TABLE`.  The name of a table that is copied may be missing; then the
token in its place is passed over. -/
def createTable (g : Grammar) : Parser CreateTable := do
  ifNotExists
  let name ← objectName
  onCluster
  if (← keywordOf? ["LIKE", "ILIKE"]).isSome then forget (heedless objectName)
  if ← keyword? "CLONE" then forget (heedless objectName)
  let body ← tableBody g
  tableOptions g
  if ← keyword? "AS" then forget g.query
  else if g.dialect == .mysql then
    if ← nextIsKeyword "SELECT" then forget g.query
  return ⟨name, body.columns, body.constraints⟩

/-- What follows `CREATE EXTERNAL`. -/
def createExternalTable (g : Grammar) : Parser CreateTable := do
  keyword "TABLE"
  ifNotExists
  let name ← objectName
  let body ← tableBody g
  partitionColumns g
  storage g
  forget (optionsAfter? g "TBLPROPERTIES")
  return ⟨name, body.columns, body.constraints⟩

end TableGraph.Sql.Parser
