/-
Reading statements that change rows.

An insertion and an update may also stand where a query is wanted, so they are kept as they
are written; a deletion and a merger are only checked for their form.
-/
import TableGraph.Sql.Parser.Select

namespace TableGraph.Sql.Parser

open TableGraph.Sql.Expr

/-! ### Parts of the statements -/

/-- What is done about a row that is there already, if it is said first.  A replacement needs
no `OR`. -/
def conflictRule? : Parser (List Expr) := do
  let rule ← phraseOf? [["OR", "REPLACE"], ["OR", "ROLLBACK"], ["OR", "ABORT"], ["OR", "FAIL"],
    ["OR", "IGNORE"], ["REPLACE"]]
  return rule.toList.map fun words =>
    if words == "REPLACE" then verbatim "OR REPLACE" else verbatim words

/-- A column, or several in parentheses, and the value they get. -/
def assignment (g : Grammar) : Parser Expr := do
  let column : Parser Expr := do return ofName (← objectName)
  let target ← if ← nextIs "(" then
      pure (.parentheses (← parenthesized (commaSeparated column)))
    else column
  symbol "="
  return .binary target "=" (← g.whole)

/-- Values that columns get. -/
def assignments (g : Grammar) : Parser Expr := do
  return listed (← commaSeparated (assignment g))

/-- The rows that a statement is about. -/
def rowCondition? (g : Grammar) : Parser (List Expr) := clauseOf? ["WHERE"] g.whole

/-- What a statement gives back about the rows that it changes. -/
def returning? (g : Grammar) : Parser (List Expr) :=
  clauseOf? ["RETURNING"] do return listed (← commaSeparated (selectItem g))

/-- The forms of files with rows. -/
def fileFormats : List String :=
  ["AVRO", "JSONFILE", "ORC", "PARQUET", "RCFILE", "SEQUENCEFILE", "TEXTFILE"]

/-- The form of a file with rows. -/
def fileFormat : Parser Expr := do
  match ← keywordOf? fileFormats with
  | some word => return verbatim word
  | none => reject "fileformat"

/-! ### Insertion -/

/-- The rows that an insertion about a conflict is for. -/
def conflictTarget? : Parser (List Expr) := do
  if ← phrase? ["ON", "CONSTRAINT"] then
    return [words ["ON CONFLICT ON CONSTRAINT", ofName (← objectName)]]
  if ← nextIs "(" then return [called "ON CONFLICT" (ofIdents (← identList))]
  return ["ON CONFLICT"]

/-- What an insertion does with a row that is there already. -/
def insertConflict? (g : Grammar) : Parser (List Expr) := do
  if ← keyword? "ON" then
    if ← keyword? "CONFLICT" then
      let target ← conflictTarget?
      keyword "DO"
      if ← keyword? "NOTHING" then return target ++ [verbatim "DO NOTHING"]
      phrase ["UPDATE", "SET"]
      let values ← assignments g
      return target ++ [words ["DO UPDATE SET", values]] ++ (← rowCondition? g)
    phrase ["DUPLICATE", "KEY", "UPDATE"]
    return [words ["ON DUPLICATE KEY UPDATE", ← assignments g]]
  return []

/-- The parts of a table that an insertion is for. -/
def insertPartition? (g : Grammar) : Parser (List Expr) := do
  if ← keyword? "PARTITION" then return [called "PARTITION " (listed (← g.exprList))] else return []

/-- Columns in parentheses, or none, as they are written. -/
def columnNames? (g : Grammar) : Parser (List Expr) := do
  match ← columnList? (g.dialect == .mysql) with
  | [] => return []
  | columns => return [.parentheses (columns.map fun i => .path [i])]

/-- A selection in parentheses comes next. -/
def nextIsSelection : Parser Bool := do
  match ← get with
  | ⟨.symbol "(", _⟩ :: s :: _ => return s.token.isKeyword "SELECT"
  | _ => return false

/-- The rows of an insertion, after the columns they are for. -/
def insertedRows (g : Grammar) : Parser (List Expr) := do
  if ← phrase? ["DEFAULT", "VALUES"] then return ["DEFAULT VALUES"]
  if ← nextIsSelection then return [← g.query]
  let columns ← columnNames? g
  let part ← insertPartition? g
  return columns ++ part ++ [← g.query]

/-- The name that new rows have in the rest of an insertion. -/
def rowAlias? (g : Grammar) : Parser (List Expr) := do
  if !g.isOneOf [.mysql, .generic] then return []
  if ← keyword? "AS" then
    let name ← objectName
    let columns ← columnList? false
    return [words ["AS", withColumns (ofName name) (columns.map fun i => .path [i])]]
  return []

/-- Rows that are written to a directory, after its word. -/
def insertDirectory (g : Grammar) (before : List Expr) : Parser Expr := do
  let path ← literalText g.dialect
  let format ← after? ["STORED", "AS"] fileFormat
  return words (before ++ [verbatim "DIRECTORY", verbatim ("'" ++ path ++ "'")]
    ++ preceded "STORED AS" format ++ [← g.query])

/-- An insertion after its word, which is `word`. -/
def insertion (g : Grammar) (word : String) : Parser Expr := do
  let rule ← conflictRule?
  let shared := g.isOneOf [.mysql, .generic]
  let priority ← if shared then keywordOf? ["LOW_PRIORITY", "DELAYED", "HIGH_PRIORITY"]
    else pure none
  let ignored ← if shared then phraseOf? [["IGNORE"]] else pure none
  let overwrite ← phraseOf? [["OVERWRITE"]]
  let into ← phraseOf? [["INTO"]]
  let near ← phraseOf? [["LOCAL"]]
  let said (ws : List (Option String)) : List Expr := ws.filterMap (·.map verbatim)
  if ← keyword? "DIRECTORY" then
    insertDirectory g (verbatim word :: said [overwrite, near])
  else
    let table ← phraseOf? [["TABLE"]]
    let name ← objectName
    let aliasName ← if g.dialect == .postgresql then after? ["AS"] identExpr else pure none
    let rows ← insertedRows g
    let rowAlias ← rowAlias? g
    let conflict ← insertConflict? g
    let opening :=
      if rule.isEmpty then verbatim word :: said [priority, ignored, overwrite, into, table]
      else verbatim word :: rule ++ [verbatim "INTO"]
    return words (opening ++ [ofName name] ++ preceded "AS" aliasName ++ rows ++ rowAlias ++ conflict
      ++ (← returning? g))

/-! ### Update and deletion -/

/-- An update after its word. -/
def update (g : Grammar) : Parser Expr := do
  let rule ← conflictRule?
  let tables ← joinedTables g
  keyword "SET"
  let values ← assignments g
  let source ←
    if ← keyword? "FROM" then
      if g.dialect == .mysql then pure none else some <$> joinedTables g
    else pure none
  let condition ← rowCondition? g
  return words (verbatim "UPDATE" :: rule ++ [tables, verbatim "SET", values]
    ++ preceded "FROM" source ++ condition ++ (← returning? g))

/-- How many rows there are at most; all of them is no limit. -/
def limit (g : Grammar) : Parser (Option Expr) := do
  if ← keyword? "ALL" then return none else some <$> g.whole

/-- A deletion after its word. -/
def deletion (g : Grammar) : Parser Unit := do
  unless ← keyword? "FROM" do
    unless g.isGeneric do
      forget objectNames
      keyword "FROM"
  forget (commaSeparated (joinedTables g))
  if ← keyword? "USING" then forget (commaSeparated (joinedTables g))
  forget (rowCondition? g)
  forget (returning? g)
  forget (order? g)
  if ← keyword? "LIMIT" then forget (limit g)

/-! ### Merger -/

/-- Which rows a case of a merger is for. -/
def mergeKind : Parser String := do
  let negated ← keyword? "NOT"
  keyword "MATCHED"
  if !negated then return "MATCHED"
  match ← phraseOf? [["BY", "SOURCE"], ["BY", "TARGET"]] with
  | some side => return "NOT MATCHED " ++ side
  | none => return "NOT MATCHED"

/-- What is inserted by a merger, after the word for it. -/
def mergeInsert (g : Grammar) : Parser Unit := do
  let empty := g.dialect == .mysql
  forget (columnList? empty)
  unless ← allowed g.isGeneric (keyword? "ROW") do
    keyword "VALUES"
    forget (rows g empty)

/-- A case of a merger. -/
def mergeCase (g : Grammar) : Parser Unit := do
  keyword "WHEN"
  let kind ← mergeKind
  if ← keyword? "AND" then forget g.whole
  keyword "THEN"
  let inserts := kind == "NOT MATCHED" || kind == "NOT MATCHED BY TARGET"
  match ← keywordOf? ["UPDATE", "INSERT", "DELETE"] with
  | some word =>
    if inserts != (word == "INSERT") then
      remark (word ++ " is not allowed in a " ++ kind ++ " merge clause") none
    if word == "UPDATE" then
      keyword "SET"
      forget (assignments g)
    else if word == "INSERT" then mergeInsert g
  | none => remark "expected UPDATE, DELETE or INSERT in merge clause" none

/-- A single table or what stands for one. -/
def source (g : Grammar) : Parser Source := do sourceWithin g (← get)

/-- A merger after its word, up to the end of the statement. -/
def merger (g : Grammar) : Parser Unit := do
  let _ ← keyword? "INTO"
  forget (source g)
  keyword "USING"
  forget (source g)
  keyword "ON"
  forget g.whole
  forget <| many do
    if (← next?).isNone || (← nextIs ";") then return none
    some <$> mergeCase g

end TableGraph.Sql.Parser
