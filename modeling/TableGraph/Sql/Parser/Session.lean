/-
Reading statements about a session: its transactions, its variables, and what it asks to be
shown.
-/
import TableGraph.Sql.Parser.Object
import TableGraph.Text.Case

namespace TableGraph.Sql.Parser

/-! ### Transactions -/

/-- How far a transaction sees others. -/
def isolationLevels : List (List String) := [
  ["READ", "UNCOMMITTED"], ["READ", "COMMITTED"], ["REPEATABLE", "READ"], ["SERIALIZABLE"]]

/-- Something said about a transaction, if it comes next. -/
def transactionMode? : Parser Bool := do
  if ← phrase? ["ISOLATION", "LEVEL"] then
    if (← phraseOf? isolationLevels).isNone then fail "isolation level"
    return true
  return (← phraseOf? [["READ", "ONLY"], ["READ", "WRITE"]]).isSome

/-- What is said about a transaction; another mode has to follow a comma. -/
def transactionModes : Parser Unit :=
  forget <| loop (fun required => do
    if ← transactionMode? then return some (← symbol? ",")
    if required then fail "transaction mode"
    return none) false

/-- What follows `BEGIN`. -/
def transactionStart (g : Grammar) : Parser Unit := do
  if g.isOneOf [.sqlite, .generic] then
    forget (keywordOf? ["DEFERRED", "IMMEDIATE", "EXCLUSIVE"])
  forget (keywordOf? ["TRANSACTION", "WORK"])
  transactionModes

/-- What follows a word that ends a transaction. -/
def transactionEnd : Parser Unit := do
  forget (keywordOf? ["TRANSACTION", "WORK"])
  if ← keyword? "AND" then
    forget (keyword? "NO")
    keyword "CHAIN"

/-- What follows `ROLLBACK`. -/
def rollback : Parser Unit := do
  transactionEnd
  if ← keyword? "TO" then
    forget (keyword? "SAVEPOINT")
    forget ident

/-! ### Variables -/

/-- The role of a session. -/
def sessionRole : Parser Unit := do
  keyword "ROLE"
  unless ← keyword? "NONE" do forget ident

/-- The characters in which texts are sent. -/
def characterNames (g : Grammar) : Parser Unit := do
  unless ← keyword? "DEFAULT" do
    forget (literalText g.dialect)
    optional ["COLLATE"] (literalText g.dialect)

/-- The value of a variable. -/
def variableValue (g : Grammar) : Parser Unit := do
  if ← nextIsOneOf ["SELECT", "WITH"] then forget g.query
  else if (← heedless g.whole).isNone then fail "variable value"

/-- The names of variables: one, or several in parentheses. -/
inductive VariableNames
  | one (name : String)
  | several

/-- The names of the variables that are set. -/
def variableNames (g : Grammar) : Parser VariableNames := do
  if ← phrase? ["TIME", "ZONE"] then return .one "TIMEZONE"
  if g.isGeneric && (← nextIs "(") then
    forget identList
    return .several
  return .one (← objectName).render

/-- What follows the name of a variable that has no sign of equality after it. -/
def unsignedVariable (g : Grammar) (name : String) (session : Bool) : Parser Unit := do
  if Text.sameName name "timezone" then
    if (← heedless g.whole).isNone then fail "timezone value"
  else if name == "CHARACTERISTICS" then
    phrase ["AS", "TRANSACTION"]
    transactionModes
  else if name == "TRANSACTION" && session then
    if ← keyword? "SNAPSHOT" then forget (value g.dialect) else transactionModes
  else fail "equals sign or TO"

/-- The variables that are set, and their values; `session` says that nothing was said about
how long they last. -/
def setVariables (g : Grammar) (session : Bool) : Parser Unit := do
  match ← variableNames g with
  | .several =>
    unless ← symbol? "=" <||> keyword? "TO" do fail "set variable"
    parenthesized (forget (commaSeparated (variableValue g)))
  | .one name =>
    if g.isOneOf [.mysql, .generic] && Text.sameName name "names" then characterNames g
    else if ← symbol? "=" <||> keyword? "TO" then
      forget (commaSeparated (variableValue g))
    else unsignedVariable g name session

/-- What follows `SET`. -/
def setStatement (g : Grammar) : Parser Unit := do
  let modifier ← keywordOf? ["SESSION", "LOCAL", "HIVEVAR"]
  if modifier == some "HIVEVAR" then symbol ":"
  else if (← attempt sessionRole).isSome then return
  setVariables g modifier.isNone

/-! ### What is shown -/

/-- Which of the objects are shown. -/
def shownFilter (g : Grammar) : Parser Unit := do
  if (← keywordOf? ["LIKE", "ILIKE"]).isSome then forget (literalText g.dialect)
  else if ← keyword? "WHERE" then forget g.whole
  else forget (attempt (literalText g.dialect))

/-- The kinds of objects that others are in. -/
def holderKinds : List String := ["ACCOUNT", "DATABASE", "SCHEMA", "TABLE", "VIEW"]

/-- What the shown objects are in. -/
def shownPlace : Parser Unit := do
  if (← keywordOf? ["FROM", "IN"]).isSome then
    match ← keywordOf? holderKinds with
    | some kind =>
      let nameless := kind == "DATABASE" || kind == "SCHEMA"
      unless nameless && ((← nextArePhrase ["STARTS", "WITH"]) || (← nextIsKeyword "LIMIT")) do
        forget (attempt objectName)
    | none =>
      forget objectName
      if (← keywordOf? ["FROM", "IN"]).isSome then forget ident

/-- What is said about the shown objects. -/
def shownObjects (g : Grammar) : Parser Unit := do
  shownPlace
  shownFilter g
  optional ["STARTS", "WITH"] (value g.dialect)
  optional ["LIMIT"] (limit g)
  optional ["FROM"] (value g.dialect)

/-- The kinds of objects whose definition is shown. -/
def definedKinds : List String := ["TABLE", "TRIGGER", "FUNCTION", "PROCEDURE", "EVENT", "VIEW"]

/-- Passes over everything up to a sign of equality. -/
def passToEquals : Parser Unit := modify (List.dropWhile (·.token != .symbol "="))

/-- What follows `SHOW`.  The words for a variable go on up to a sign of equality. -/
def showStatement (g : Grammar) : Parser Unit := do
  forget (keyword? "TERSE")
  let extended ← keyword? "EXTENDED"
  let full ← keyword? "FULL"
  forget (keyword? "SESSION")
  forget (keyword? "GLOBAL")
  let external ← keyword? "EXTERNAL"
  if let some kind ← phraseOf? [["COLUMNS"], ["FIELDS"], ["TABLES"], ["MATERIALIZED", "VIEWS"],
      ["VIEWS"]] then
    forget (allowed (kind == "TABLES" && !external) (keyword? "HISTORY"))
    shownObjects g
  else if ← keyword? "FUNCTIONS" then shownFilter g
  else if extended || full then
    remark "EXTENDED/FULL are not supported with this type of SHOW query" none
  else if ← keyword? "CREATE" then
    forget (keywordOf definedKinds)
    forget objectName
  else if ← keyword? "COLLATION" then shownFilter g
  else
    let ofVariables ← keyword? "VARIABLES"
    let status ← if ofVariables && g.isOneOf [.mysql, .generic] then pure true else keyword? "STATUS"
    if status && g.isOneOf [.mysql, .generic] then shownFilter g
    else if ← keyword? "DATABASES" then
      forget (keyword? "HISTORY")
      shownObjects g
    else if ← keyword? "SCHEMAS" then
      forget (keyword? "HISTORY")
      shownObjects g
    else passToEquals

/-! ### The server -/

/-- What follows `KILL`. -/
def kill (g : Grammar) : Parser Unit := do
  let kind ← keywordOf? ["CONNECTION", "QUERY", "MUTATION"]
  forget (natural 64)
  if kind == some "MUTATION" && !g.isGeneric then
    fail "Unsupported type for KILL, allowed: CONNECTION | QUERY"

/-- The tables that are written out, and how they are locked.  The list ends with a token
that is no word, and takes that too. -/
def flushedTables : Parser Unit :=
  forget <| many do
    match ← next? with
    | some (.word w) =>
      if w.isPlain then forget objectNames
      else
        skip
        if w.isKeyword "WITH" then forget (phrase? ["READ", "LOCK"])
        if w.isKeyword "FOR" then forget (keyword? "EXPORT")
      return some ()
    | _ => skip; return none

/-- What a server may write out. -/
def flushedKinds : List (List String) := [
  ["BINARY", "LOGS"], ["ENGINE", "LOGS"], ["ERROR", "LOGS"], ["GENERAL", "LOGS"], ["HOSTS"],
  ["PRIVILEGES"], ["OPTIMIZER_COSTS"], ["RELAY", "LOGS"], ["SLOW", "LOGS"], ["STATUS"],
  ["USER_RESOURCES"], ["LOGS"], ["TABLES"]]

/-- What follows `FLUSH`. -/
def flush (g : Grammar) : Parser Unit := do
  unless g.isOneOf [.mysql, .generic] do remark "Unsupported statement FLUSH" (← place?)
  forget (keywordOf? ["NO_WRITE_TO_BINLOG", "LOCAL"])
  match ← phraseOf? flushedKinds with
  | some "RELAY LOGS" => optional ["FOR", "CHANNEL"] objectName
  | some "TABLES" => flushedTables
  | some _ => return
  | none =>
    fail ("BINARY LOGS, ENGINE LOGS, ERROR LOGS, GENERAL LOGS, HOSTS, LOGS, PRIVILEGES, "
      ++ "OPTIMIZER_COSTS,RELAY LOGS [FOR CHANNEL channel], SLOW LOGS, STATUS, USER_RESOURCES")

/-- What follows `DISCARD`. -/
def discard : Parser Unit := do
  if (← keywordOf? ["ALL", "PLANS", "SEQUENCES", "TEMP", "TEMPORARY"]).isNone then
    fail "ALL, PLANS, SEQUENCES, TEMP or TEMPORARY after DISCARD"

/-- A table that is locked. -/
def lockedTable : Parser Unit := do
  forget ident
  forget (alias? ["READ", "WRITE", "LOW_PRIORITY"])
  if ← keyword? "READ" then forget (keyword? "LOCAL")
  else if (← phraseOf? [["WRITE"], ["LOW_PRIORITY", "WRITE"]]).isNone then
    fail "an lock type in LOCK TABLES"

/-- The value of a pragma. -/
def pragmaValue (g : Grammar) : Parser Unit := do
  let found ← get
  match ← value g.dialect with
  | .text .single _ | .text .double _ => return
  | _ =>
    unless isNumberValue (found.head?.map (·.token)) do
      throw (.unexpected "number or string or ? placeholder" found.head?)

/-- What follows `PRAGMA`. -/
def pragma (g : Grammar) : Parser Unit := do
  forget objectName
  if ← nextIs "(" then parenthesized (pragmaValue g)
  else if ← symbol? "=" then pragmaValue g

/-- What follows `UNLISTEN`. -/
def unlisten : Parser Unit := do
  unless ← symbol? "*" do
    let found ← front?
    if (← heedless ident).isNone then throw (.unexpected "wildcard or identifier" found)

/-- What follows `NOTIFY`. -/
def notify (g : Grammar) : Parser Unit := do
  forget ident
  if ← symbol? "," then forget (literalText g.dialect)

end TableGraph.Sql.Parser
