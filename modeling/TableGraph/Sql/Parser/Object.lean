/-
Reading statements that create and drop objects which are no tables.

Only the form of these statements is checked.  Many of them belong to some dialects only;
elsewhere the word for the object is as unknown as any other.
-/
import TableGraph.Sql.Parser.CreateTable

namespace TableGraph.Sql.Parser

/-! ### Parts that several statements share -/

/-- The words that an object need not be there come next and are taken. -/
def ifExists : Parser Unit := forget (phrase? ["IF", "EXISTS"])

/-- What is done with objects that depend on one that is dropped. -/
def dropBehaviour : Parser Unit := forget (keywordOf? ["CASCADE", "RESTRICT"])

/-- Takes what the parser takes if the keywords come next. -/
def optional (ks : List String) (p : Parser α) : Parser Unit := forget (after? ks p)

/-- The word for the object, which has been taken, is not known: `tokens` begin with it. -/
def unknownObject (wanted : String) (tokens : List Lexeme) : Parser α := do
  set tokens
  fail wanted

/-- Who owns an object. -/
def owner : Parser Unit := do
  if (← keywordOf? ["CURRENT_USER", "CURRENT_ROLE", "SESSION_USER"]).isNone then
    fun tokens =>
      match ident tokens with
      | .ok _ rest => .ok () rest
      | .error fault rest =>
        .error (.remark ("Expected: CURRENT_USER, CURRENT_ROLE, SESSION_USER or identifier after "
          ++ "OWNER TO. sql parser error: " ++ fault.message) none) rest

/-- A condition in parentheses after the keywords, if they come next. -/
def conditionAfter (g : Grammar) (ks : List String) : Parser Unit :=
  optional ks (parenthesized g.whole)

/-- The owners, and the conditions on the rows, of a policy. -/
def policyRules (g : Grammar) : Parser Unit := do
  optional ["TO"] (commaSeparated owner)
  conditionAfter g ["USING"]
  conditionAfter g ["WITH", "CHECK"]

/-! ### Functions -/

/-- An argument of a function that is declared.  A type of the user's that comes first is the
name of the argument. -/
def functionArgument (g : Grammar) : Parser Unit := do
  forget (keywordOf? ["IN", "OUT", "INOUT"])
  if let .custom _ _ ← dataType g then forget (dataType g)
  if ← keyword? "DEFAULT" <||> symbol? "=" then forget g.whole

/-- A function, with its arguments if they are said. -/
def functionReference (g : Grammar) : Parser Unit := do
  forget objectName
  if ← nextIs "(" then
    forget (parenthesized (commaSeparatedUntil ")" (functionArgument g)))

/-- The body of a function as a text. -/
def functionText (g : Grammar) : Parser Unit := do
  match ← next? with
  | some (.text (.dollar _) _) => skip
  | _ => forget (literalText g.dialect)

/-- What may be said about a function, each thing with the words that begin it. -/
def functionTraits : List (List String × String) := [
  (["AS"], "AS"), (["LANGUAGE"], "LANGUAGE"),
  (["IMMUTABLE"], "IMMUTABLE | STABLE | VOLATILE"),
  (["STABLE"], "IMMUTABLE | STABLE | VOLATILE"),
  (["VOLATILE"], "IMMUTABLE | STABLE | VOLATILE"),
  (["CALLED", "ON", "NULL", "INPUT"], "CALLED ON NULL INPUT | RETURNS NULL ON NULL INPUT | STRICT"),
  (["RETURNS", "NULL", "ON", "NULL", "INPUT"],
    "CALLED ON NULL INPUT | RETURNS NULL ON NULL INPUT | STRICT"),
  (["STRICT"], "CALLED ON NULL INPUT | RETURNS NULL ON NULL INPUT | STRICT"),
  (["PARALLEL"], "PARALLEL \x7b UNSAFE | RESTRICTED | SAFE \x7d"), (["RETURN"], "RETURN")]

/-- What follows the words for a trait of a function. -/
def functionTrait (g : Grammar) (words : String) : Parser Unit := do
  match words with
  | "AS" => functionText g
  | "LANGUAGE" => forget ident
  | "PARALLEL" =>
    if (← keywordOf? ["UNSAFE", "RESTRICTED", "SAFE"]).isNone then
      fail "one of UNSAFE | RESTRICTED | SAFE"
  | "RETURN" => forget g.whole
  | _ => return

/-- The kind of a trait: a body is given in one of two ways. -/
def traitKind (trait : String) : String := if trait == "RETURN" then "AS" else trait

/-- The traits of a function, each of which may be said once. -/
def functionTraitsOf (g : Grammar) : Parser Unit :=
  forget <| loop (fun said => do
    match ← phraseOf? (functionTraits.map (·.1)) with
    | none => return none
    | some words =>
      let trait := ((functionTraits.find? (fun t => " ".intercalate t.1 == words)).map (·.2)).getD ""
      if said.contains (traitKind trait) then remark (trait ++ " specified more than once") none
      functionTrait g words
      return some (traitKind trait :: said)) ([] : List String)

/-- What follows `CREATE FUNCTION`. -/
def createFunction (g : Grammar) : Parser Unit := do
  forget objectName
  forget (parenthesized (commaSeparatedUntil ")" (functionArgument g)))
  optional ["RETURNS"] (dataType g)
  functionTraitsOf g

/-- An argument of a macro. -/
def macroArgument (g : Grammar) : Parser Unit := do
  forget ident
  if ← symbol? ":=" <||> symbol? "=>" then forget g.whole

/-- What follows the word for a macro. -/
def createMacro (g : Grammar) : Parser Unit := do
  forget objectName
  forget (parenthesized (commaSeparatedUntil ")" (macroArgument g)))
  keyword "AS"
  if ← keyword? "TABLE" then forget g.query else forget g.whole

/-! ### Triggers -/

/-- The dialect has statements about triggers. -/
def hasTriggers (g : Grammar) : Bool := g.isOneOf [.postgresql, .generic]

/-- What starts a trigger. -/
def triggerEvent : Parser Unit := do
  let word ← keywordOf ["INSERT", "UPDATE", "DELETE", "TRUNCATE"]
  if word == "UPDATE" then optional ["OF"] (commaSeparated ident)

/-- When a trigger runs. -/
def triggerTime : Parser Unit := do
  let word ← keywordOf ["BEFORE", "AFTER", "INSTEAD"]
  if word == "INSTEAD" then keyword "OF"

/-- The names of the rows before and after a change. -/
def triggerTables : Parser Unit := do
  if ← keyword? "REFERENCING" then
    forget <| many do
      if (← keywordOf? ["OLD", "NEW"]).isNone then return none
      unless ← keyword? "TABLE" do return none
      forget (keyword? "AS")
      some <$> objectName

/-- What follows `CREATE TRIGGER`. -/
def createTrigger (g : Grammar) : Parser Unit := do
  forget objectName
  triggerTime
  triggerEvent
  forget <| many do if ← keyword? "OR" then some <$> triggerEvent else return none
  keyword "ON"
  forget objectName
  if ← keyword? "FROM" then forget (heedless objectName)
  forget timing
  triggerTables
  keyword "FOR"
  forget (keyword? "EACH")
  forget (keywordOf ["ROW", "STATEMENT"])
  optional ["WHEN"] g.whole
  keyword "EXECUTE"
  forget (keywordOf ["FUNCTION", "PROCEDURE"])
  functionReference g

/-! ### Views and indexes -/

/-- A column of a view. -/
def viewColumn (g : Grammar) : Parser Unit := do
  forget ident
  if g.isGeneric then
    if ← nextIsOneOf ["OPTIONS", "COMMENT"] then forget (columnOption? g)

/-- The columns of a view, if they are said. -/
def viewColumns (g : Grammar) : Parser Unit := do
  if ← nextIs "(" then forget (parenthesized (commaSeparatedUntil ")" (viewColumn g)))

/-- What follows `CREATE` of a view. -/
def createView (g : Grammar) : Parser Unit := do
  forget (keyword? "MATERIALIZED")
  keyword "VIEW"
  if g.isOneOf [.sqlite, .generic] then ifNotExists
  forget objectName
  viewColumns g
  forget (optionsAfter? g "WITH")
  if ← keyword? "CLUSTER" then
    keyword "BY"
    forget (columnList? false)
  if g.isGeneric then
    forget (optionsAfter? g "OPTIONS")
    optional ["TO"] objectName
    if ← keyword? "COMMENT" then
      symbol "="
      forget (singleText "string literal")
  keyword "AS"
  forget g.query
  if g.isGeneric then forget (phrase? ["WITH", "NO", "SCHEMA", "BINDING"])

/-- What follows `CREATE INDEX`. -/
def createIndex (g : Grammar) : Parser Unit := do
  forget (keyword? "CONCURRENTLY")
  let tolerant ← phrase? ["IF", "NOT", "EXISTS"]
  let nameless ← if tolerant then pure false else keyword? "ON"
  unless nameless do
    forget objectName
    keyword "ON"
  forget objectName
  optional ["USING"] ident
  forget (parenthesized (orderedExprs g))
  optional ["INCLUDE"] identList
  nullsDistinct
  if g.isOneOf [.postgresql, .generic] then optional ["WITH"] g.exprList
  optional ["WHERE"] g.whole

/-! ### Roles and policies -/

/-- The pairs of words for what a role may do and may not do. -/
def roleSwitches : List (String × String) := [
  ("LOGIN", "NOLOGIN"), ("INHERIT", "NOINHERIT"), ("BYPASSRLS", "NOBYPASSRLS"),
  ("CREATEDB", "NOCREATEDB"), ("CREATEROLE", "NOCREATEROLE"), ("SUPERUSER", "NOSUPERUSER"),
  ("REPLICATION", "NOREPLICATION")]

/-- The words that begin what is said about a role. -/
def roleWords : List String :=
  roleSwitches.flatMap (fun (yes, no) => [yes, no]) ++ ["PASSWORD", "CONNECTION", "VALID"]

/-- A password, or the word that there is none. -/
def password (g : Grammar) : Parser Unit := do
  unless ← keyword? "NULL" do forget (value g.dialect)

/-- Names with commas between them. -/
def idents : Parser Unit := forget (commaSeparated ident)

/-- What a word says about a role, in the words of a message, and how its value is read. -/
def roleTrait (g : Grammar) (word : String) : Parser (String × Parser Unit) := do
  match roleSwitches.find? fun (yes, no) => yes == word || no == word with
  | some (yes, no) => return (yes ++ " or " ++ no, return)
  | none =>
    match word with
    | "PASSWORD" => return ("PASSWORD", password g)
    | "CONNECTION" =>
      keyword "LIMIT"
      return ("CONNECTION LIMIT", forget (numberValue g.dialect))
    | "VALID" =>
      keyword "UNTIL"
      return ("VALID UNTIL", forget (value g.dialect))
    | "IN" =>
      match ← keywordOf? ["ROLE", "GROUP"] with
      | some kind => return ("IN " ++ kind, idents)
      | none => fail "ROLE or GROUP after IN"
    | other => return (other, idents)

/-- The traits of a new role, each of which may be said once. -/
def roleTraits (g : Grammar) : Parser Unit :=
  forget <| loop (fun said => do
    let place ← place?
    match ← keywordOf? (roleWords ++ ["IN", "ROLE", "ADMIN", "USER"]) with
    | none => return none
    | some word =>
      let (trait, read) ← roleTrait g word
      if said.contains trait then remark ("Found multiple " ++ trait) place
      read
      return some (trait :: said)) ([] : List String)

/-- What follows `CREATE ROLE`. -/
def createRole (g : Grammar) : Parser Unit := do
  ifNotExists
  forget objectNames
  forget (keyword? "WITH")
  if g.dialect == .postgresql then roleTraits g

/-- What follows `CREATE POLICY`. -/
def createPolicy (g : Grammar) : Parser Unit := do
  forget ident
  keyword "ON"
  forget objectName
  if ← keyword? "AS" then forget (keywordOf ["PERMISSIVE", "RESTRICTIVE"])
  if ← keyword? "FOR" then forget (keywordOf ["ALL", "SELECT", "INSERT", "UPDATE", "DELETE"])
  policyRules g

/-! ### Other objects -/

/-- What follows `CREATE SCHEMA`. -/
def createSchema : Parser Unit := do
  ifNotExists
  unless ← nextIsKeyword "AUTHORIZATION" do forget objectName
  optional ["AUTHORIZATION"] ident

/-- What follows `CREATE DATABASE`. -/
def createDatabase (g : Grammar) : Parser Unit := do
  ifNotExists
  forget objectName
  forget <| many do
    match ← keywordOf? ["LOCATION", "MANAGEDLOCATION"] with
    | some _ => some <$> literalText g.dialect
    | none => return none

/-- What follows `CREATE SEQUENCE`. -/
def createSequence (g : Grammar) : Parser Unit := do
  ifNotExists
  forget objectName
  optional ["AS"] (dataType g)
  forget (sequenceOptions g)
  if ← phrase? ["OWNED", "BY"] then unless ← keyword? "NONE" do forget objectName

/-- A field of a type. -/
def typeAttribute (g : Grammar) : Parser Unit := do
  forget ident
  forget (dataType g)
  optional ["COLLATE"] objectName

/-- Items in parentheses, the first of which has been taken; a comma may stand after the last
item. -/
def itemsToClose (item : Parser Unit) (wanted : String) : Parser Unit :=
  forget <| loop (fun ended => do
    if ended then return none
    item
    let comma ← symbol? ","
    if ← symbol? ")" then return some true
    unless comma do fail wanted
    return some false) false

/-- The labels of a type that is an enumeration. -/
def typeLabels : Parser Unit := do
  unless ← symbol? "(" do fail "'(' after CREATE TYPE AS ENUM"
  forget (commaSeparatedUntil ")" ident)
  symbol ")"

/-- The beginning of a statement that creates an enumeration. -/
def enumerationStart : Parser Unit := do
  phrase ["CREATE", "TYPE"]
  forget objectName
  phrase ["AS", "ENUM"]

/-- Takes a statement that creates an enumeration, if it is one. -/
def enumeration? : Parser Bool := do
  let found := (← attempt enumerationStart).isSome
  if found then typeLabels
  return found

/-- What follows `CREATE TYPE` of a type that has fields, or that has nothing more. -/
def createType (g : Grammar) : Parser Unit := do
  forget objectName
  keyword "AS"
  if ← symbol? "(" then
    unless ← symbol? ")" do
      itemsToClose (typeAttribute g) "',' or ')' after attribute definition"

/-- What follows `CREATE EXTENSION`. -/
def createExtension : Parser Unit := do
  ifNotExists
  forget ident
  if ← keyword? "WITH" then
    optional ["SCHEMA"] ident
    optional ["VERSION"] ident
    forget (keyword? "CASCADE")

/-- What follows `CREATE VIRTUAL`. -/
def createVirtualTable : Parser Unit := do
  keyword "TABLE"
  ifNotExists
  forget objectName
  keyword "USING"
  forget ident
  forget (columnList? false)

/-- What follows `CREATE SECRET`.  Names that are no names are passed over. -/
def createSecret : Parser Unit := do
  ifNotExists
  unless ← nextIs "(" do
    if ← keyword? "IN" then
      if (← heedless ident).isNone then optional ["IN"] (heedless ident)
    else
      forget (heedless ident)
      optional ["IN"] (heedless ident)
  forget <| parenthesized do
    keyword "TYPE"
    forget ident
    if ← symbol? "," then forget (commaSeparated do forget ident; forget ident)

/-! ### Dropping -/

/-- The kinds of objects that are dropped by their names. -/
def droppedKinds : List String := [
  "TABLE", "VIEW", "INDEX", "ROLE", "SCHEMA", "DATABASE", "SEQUENCE", "STAGE", "TYPE"]

/-- The names of dropped objects, and what is done with those that depend on them. -/
def dropNames (kind : String) : Parser Unit := do
  ifExists
  forget objectNames
  let place ← place?
  let cascade ← keyword? "CASCADE"
  let restrict ← keyword? "RESTRICT"
  let purge ← keyword? "PURGE"
  if cascade && restrict then remark "Cannot specify both CASCADE and RESTRICT in DROP" place
  if kind == "ROLE" && (cascade || restrict || purge) then
    remark "Cannot specify CASCADE, RESTRICT, or PURGE in DROP ROLE" place

/-- What follows `DROP TRIGGER` or `DROP POLICY`, whose name is read by `name`. -/
def dropFromTable (name : Parser α) : Parser Unit := do
  ifExists
  forget name
  keyword "ON"
  forget objectName
  dropBehaviour

/-- What follows `DROP FUNCTION` or `DROP PROCEDURE`. -/
def dropFunctions (g : Grammar) : Parser Unit := do
  ifExists
  forget (commaSeparated (functionReference g))
  dropBehaviour

/-- What follows `DROP SECRET`. -/
def dropSecret : Parser Unit := do
  ifExists
  forget ident
  optional ["FROM"] (heedless ident)

/-- What follows `DROP`. -/
def drop (g : Grammar) : Parser Unit := do
  if g.isOneOf [.mysql, .generic] then forget (keyword? "TEMPORARY")
  if let some kind ← keywordOf? droppedKinds then return ← dropNames kind
  let tokens ← get
  match ← keywordOf? ["FUNCTION", "PROCEDURE", "POLICY", "SECRET", "TRIGGER"] with
  | some "POLICY" => dropFromTable ident
  | some "SECRET" => dropSecret
  | some "TRIGGER" =>
    unless hasTriggers g do unknownObject "an object type after DROP" tokens
    dropFromTable objectName
  | some _ => dropFunctions g
  | none =>
    fail ("TABLE, VIEW, INDEX, ROLE, SCHEMA, DATABASE, FUNCTION, PROCEDURE, STAGE, TRIGGER, "
      ++ "SECRET, SEQUENCE, or TYPE after DROP")

/-! ### Remarks -/

/-- The kinds of objects that may have a remark. -/
def remarkedKinds : List String :=
  ["COLUMN", "DATABASE", "EXTENSION", "ROLE", "SCHEMA", "TABLE", "USER"]

/-- What follows `COMMENT`. -/
def commentOn (g : Grammar) : Parser Unit := do
  ifExists
  keyword "ON"
  if (← keywordOf? remarkedKinds).isNone then reject "comment object_type"
  forget objectName
  keyword "IS"
  unless ← keyword? "NULL" do forget (literalText g.dialect)

end TableGraph.Sql.Parser
