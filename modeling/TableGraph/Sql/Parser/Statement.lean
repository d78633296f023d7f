/-
Reading the statements of a script.

Only statements that create tables have a content.  The others are read to find their
end, and to refuse a script in which one of them is malformed.

A few statements have others inside them, which count as deeper.
-/
import TableGraph.Sql.Parser.Access
import TableGraph.Sql.Parser.Alter
import TableGraph.Sql.Parser.Cursor
import TableGraph.Sql.Parser.Nesting
import TableGraph.Sql.Parser.Session
import TableGraph.Sql.Parser.Transfer

namespace TableGraph.Sql.Parser

/-! ### Scripts -/

/-- The statements that are known so far, with the last first, and whether a semicolon has to
come before the next one. -/
structure Progress where
  found : List Statement := []
  separated : Bool := true

/-- Reads one more statement, if there is one.  The word `END` in place of a semicolon ends
the statements. -/
def statementStep (statement : Parser Statement) (p : Progress) : Parser (Option Progress) := do
  let semicolons ← many do if ← symbol? ";" then return some () else return none
  let separated := p.separated || !semicolons.isEmpty
  if (← next?).isNone then return none
  if !separated then
    if ← nextIsKeyword "END" then return none
    fail "end of statement"
  return some { found := (← statement) :: p.found, separated := false }

/-- Statements up to the end of the script, or up to the word `END`. -/
def statementsOf (statement : Parser Statement) : Parser (List Statement) := do
  return (← loop (statementStep statement) {}).found.reverse

/-! ### Statements with others inside -/

/-- An option of a plan, with its value if it has one. -/
def planOption (g : Grammar) : Parser Unit := do
  forget ident
  unless (← nextIs ",") || (← nextIs ")") do forget g.whole

/-- How a plan is shown. -/
def planForm (g : Grammar) (word : String) : Parser Unit := do
  let optioned := word == "EXPLAIN" && g.isOneOf [.postgresql, .generic]
  if optioned && (← nextIs "(") then forget (parenthesized (commaSeparated (planOption g)))
  else unless ← phrase? ["QUERY", "PLAN"] do
    forget (keyword? "ANALYZE")
    forget (keyword? "VERBOSE")
    if ← keyword? "FORMAT" then
      if (← keywordOf? ["TEXT", "GRAPHVIZ", "JSON"]).isNone then reject "fileformat"

/-- What follows a word that asks for a plan, or for what is known of a table. -/
def plan (g : Grammar) (word : String) (statement : Parser Statement) : Parser Statement := do
  planForm g word
  match ← attempt statement with
  | some .plan => remark "Explain must be root of the plan" none
  | some _ => return .plan
  | none =>
    forget (keywordOf? ["EXTENDED", "FORMATTED"])
    forget objectName
    return .plan

/-- What follows `PREPARE`. -/
def prepare (g : Grammar) (statement : Parser Statement) : Parser Unit := do
  forget ident
  if ← nextIs "(" then forget (parenthesized (commaSeparated (dataType g)))
  keyword "AS"
  forget statement

/-- A parameter of a procedure, if a word comes next. -/
def parameter (g : Grammar) : Parser Unit := do
  if let some (.word _) ← next? then
    forget ident
    forget (dataType g)

/-- What follows `CREATE PROCEDURE`. -/
def createProcedure (g : Grammar) (statement : Parser Statement) : Parser Unit := do
  forget objectName
  if ← symbol? "(" then
    unless ← symbol? ")" do
      itemsToClose (parameter g) "',' or ')' after parameter definition"
  phrase ["AS", "BEGIN"]
  forget (statementsOf statement)
  keyword "END"

/-! ### Creation -/

/-- What is created after `OR REPLACE` too, if it comes next; `tokens` begin with the word
for it. -/
def createReplaceable? (g : Grammar) : Parser (Option Statement) := do
  let tokens ← get
  let unknown := unknownObject "an object type after CREATE"
  let done (p : Parser Unit) : Parser (Option Statement) := do p; return some .other
  if ← keyword? "TABLE" then return some (.createTable (← createTable g))
  if ← nextIsOneOf ["MATERIALIZED", "VIEW"] then return ← done (createView g)
  if ← keyword? "POLICY" then return ← done (createPolicy g)
  if ← keyword? "EXTERNAL" then return some (.createTable (← createExternalTable g))
  if ← keyword? "FUNCTION" then
    return ← done (if g.isOneOf [.postgresql, .generic] then createFunction g else unknown tokens)
  if ← phrase? ["CONSTRAINT", "TRIGGER"] then
    return ← done (if hasTriggers g then createTrigger g else unknown (tokens.drop 1))
  if ← keyword? "TRIGGER" then
    return ← done (if hasTriggers g then createTrigger g else unknown tokens)
  if ← keyword? "MACRO" then
    return ← done (if g.isGeneric then createMacro g else unknown tokens)
  if ← keyword? "SECRET" then return ← done createSecret
  return none

/-- What is created without replacing anything. -/
def createOther (g : Grammar) (statement : Parser Statement) : Parser Unit := do
  if ← keyword? "EXTENSION" then createExtension
  else if ← keyword? "INDEX" then createIndex g
  else if ← phrase? ["UNIQUE", "INDEX"] then createIndex g
  else if ← keyword? "VIRTUAL" then createVirtualTable
  else if ← keyword? "SCHEMA" then createSchema
  else if ← keyword? "DATABASE" then createDatabase g
  else if ← keyword? "ROLE" then createRole g
  else if ← keyword? "SEQUENCE" then createSequence g
  else if ← keyword? "TYPE" then createType g
  else if ← keyword? "PROCEDURE" then createProcedure g statement
  else fail "an object type after CREATE"

/-- What follows `CREATE`. -/
def create (g : Grammar) (statement : Parser Statement) : Parser Statement := do
  let replaces ← phrase? ["OR", "REPLACE"]
  forget (phrase? ["OR", "ALTER"])
  forget (keyword? "LOCAL")
  forget (keyword? "GLOBAL")
  forget (keyword? "TRANSIENT")
  forget (keywordOf? ["TEMP", "TEMPORARY"])
  match ← createReplaceable? g with
  | some created => return created
  | none =>
    if replaces then
      fail "[EXTERNAL] TABLE or [MATERIALIZED] VIEW or FUNCTION after CREATE OR REPLACE"
    createOther g statement
    return .other

/-! ### All statements -/

/-- What follows a word that begins a statement without content in every dialect. -/
def commonRest? (g : Grammar) (word : String) : Option (Parser Unit) :=
  match word with
  | "KILL" => some (kill g)
  | "FLUSH" => some (flush g)
  | "ANALYZE" => some (analyze g)
  | "TRUNCATE" => some (truncate g)
  | "ATTACH" => some (attach g)
  | "MSCK" => some repair
  | "CACHE" => some (cache g)
  | "DROP" => some (drop g)
  | "DISCARD" => some discard
  | "DECLARE" => some (declareCursor g)
  | "FETCH" => some (fetchRows g)
  | "DELETE" => some (deletion g)
  | "INSERT" => some (forget (insertion g "INSERT"))
  | "UNCACHE" => some uncache
  | "UPDATE" => some (forget (update g))
  | "ALTER" => some (alter g)
  | "CALL" => some (call g)
  | "COPY" => some (copy g)
  | "CLOSE" => some closeCursor
  | "SET" => some (setStatement g)
  | "SHOW" => some (showStatement g)
  | "USE" => some (forget objectName)
  | "GRANT" => some grant
  | "REVOKE" => some revoke
  | "START" => some do keyword "TRANSACTION"; transactionModes
  | "BEGIN" => some (transactionStart g)
  | "END" | "COMMIT" => some transactionEnd
  | "SAVEPOINT" => some (forget ident)
  | "RELEASE" => some do forget (keyword? "SAVEPOINT"); forget ident
  | "ROLLBACK" => some rollback
  | "ASSERT" => some (assert g)
  | "DEALLOCATE" => some deallocate
  | "EXECUTE" | "EXEC" => some (execute g)
  | "MERGE" => some (merger g)
  | "PRAGMA" => some (pragma g)
  | "UNLOAD" => some (unload g)
  | "LOAD" => some (load g)
  | _ => none

/-- What follows a word that begins a statement without content in some dialects. -/
def rareRest? (g : Grammar) (word : String) : Option (Parser Unit) :=
  let only (ds : List Dialect) (p : Parser Unit) := if g.isOneOf ds then some p else none
  match word with
  | "REPLACE" =>
    if g.isOneOf [.mysql, .generic] then some (forget (insertion g "REPLACE"))
    else some do remark "Unsupported statement REPLACE" (← place?)
  | "LISTEN" => only [.postgresql] (forget ident)
  | "UNLISTEN" => only [.postgresql] unlisten
  | "NOTIFY" => only [.postgresql] (notify g)
  | "DETACH" => only [.generic] detach
  | "INSTALL" => only [.generic] (forget ident)
  | "OPTIMIZE" => only [.generic] (optimize g)
  | "COMMENT" => only [.generic, .postgresql] (commentOn g)
  | _ => none

/-- What follows a word that begins a statement, if it begins one; `statement` reads a
statement inside it. -/
def rest? (g : Grammar) (statement : Parser Statement) (word : String) :
    Option (Parser Statement) :=
  match word with
  | "CREATE" => some (create g statement)
  | "DESC" | "DESCRIBE" | "EXPLAIN" => some (plan g word statement)
  | "PREPARE" => some do prepare g statement; return .other
  | _ => (commonRest? g word <|> rareRest? g word).map fun p => do p; return .other

/-- A statement that begins in a way of one dialect, if it does. -/
def dialectStatement? (g : Grammar) : Parser Bool := do
  if g.dialect == .mysql then
    if ← phrase? ["LOCK", "TABLES"] then
      forget (commaSeparated lockedTable)
      return true
    return ← phrase? ["UNLOCK", "TABLES"]
  if g.dialect == .postgresql then return ← enumeration?
  if g.dialect == .sqlite && (← nextIsKeyword "REPLACE") then
    forget (insertion g "INSERT")
    return true
  return false

/-- A statement; `statement` reads a statement inside it. -/
def statementBody (g : Grammar) (statement : Parser Statement) : Parser Statement := do
  if ← dialectStatement? g then return .other
  match ← next? with
  | some (.symbol "(") => forget g.query; return .other
  | some (.word w) =>
    if w.isOneOf ["SELECT", "WITH", "VALUES"] then
      forget g.query
      return .other
    match rest? g statement w.capitals with
    | some p => skip; p
    | none => reject "an SQL statement"
  | _ => reject "an SQL statement"

/-- A statement, with so much depth left. -/
def statementWithin (d : Dialect) : Nat → Parser Statement
  | 0 => throw .tooDeep
  | depth + 1 => statementBody (grammar d depth) (statementWithin d depth)

/-- The statements of a script. -/
def statements (d : Dialect) : Parser (List Statement) :=
  statementsOf (statementWithin d depthLimit)

end Parser

/-- The statements of a script in a dialect. -/
def parse (d : Dialect) (text : String) : Except SqlError (List Statement) := do
  let tokens ← lexemes d text
  match Parser.statements d tokens with
  | .ok found _ => .ok found
  | .error fault _ => .error fault

end TableGraph.Sql
