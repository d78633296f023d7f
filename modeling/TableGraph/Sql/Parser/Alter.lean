/-
Reading statements that alter objects.

A change of a table begins with a word that says what is done; most of the changes are known
in every dialect.
-/
import TableGraph.Sql.Parser.Object

namespace TableGraph.Sql.Parser

/-! ### Adding to a table -/

/-- Where a new column comes, if that is said and the dialect has it. -/
def columnPosition (g : Grammar) : Parser Unit := do
  if g.isOneOf [.mysql, .generic] then
    unless ← keyword? "FIRST" do optional ["AFTER"] ident

/-- A choice of columns that is kept with a table. -/
def addProjection (g : Grammar) : Parser Unit := do
  ifNotExists
  forget ident
  parenthesized do
    keyword "SELECT"
    forget (commaSeparated (selectItem g))
    forget (groups? g)
    forget (queryOrder? g)

/-- What follows `ADD`, if no constraint does. -/
def addColumn (g : Grammar) : Parser Unit := do
  if ← allowed g.isGeneric (keyword? "PROJECTION") then return ← addProjection g
  ifNotExists
  let parts ← many do if ← keyword? "PARTITION" then some <$> g.exprList else return none
  if parts.isEmpty then
    forget (keyword? "COLUMN")
    if g.isOneOf [.postgresql, .generic] then ifNotExists
    forget (columnDef g)
    columnPosition g

/-- What follows `ADD`. -/
def addToTable (g : Grammar) : Parser Unit := do
  if (← tableConstraint? g).isNone then addColumn g

/-! ### Changing a table -/

/-- A new name after an old one. -/
def renamed : Parser Unit := do
  forget ident
  keyword "TO"
  forget ident

/-- What follows `RENAME`. -/
def renameInTable (g : Grammar) : Parser Unit := do
  if ← allowed (g.dialect == .postgresql) (keyword? "CONSTRAINT") then renamed
  else if ← keyword? "TO" then forget objectName
  else
    forget (keyword? "COLUMN")
    renamed

/-- What is turned on or off: the rules for single rows, or what one of the phrases and a name
stand for. -/
def switchRule (phrases : List (List String)) (wanted : String) : Parser Unit := do
  if ← phrase? ["ROW", "LEVEL", "SECURITY"] then return
  match ← phraseOf? phrases with
  | some _ => forget ident
  | none => fail wanted

/-- What follows `DROP`. -/
def dropFromTableOf (g : Grammar) : Parser Unit := do
  let named : Parser Unit := do
    ifExists
    forget ident
    forget (keyword? "CASCADE")
  if ← phrase? ["IF", "EXISTS", "PARTITION"] then forget g.exprList
  else if ← keyword? "PARTITION" then forget g.exprList
  else if ← keyword? "CONSTRAINT" then named
  else
    let key ← phrase? ["PRIMARY", "KEY"]
    if key && g.isOneOf [.mysql, .generic] then return
    let projection ← keyword? "PROJECTION"
    if projection && g.isGeneric then
      ifExists
      forget ident
    else if ← phrase? ["CLUSTERING", "KEY"] then return
    else
      forget (keyword? "COLUMN")
      named

/-- What follows `PARTITION`. -/
def renamePartition (g : Grammar) : Parser Unit := do
  forget g.exprList
  phrase ["RENAME", "TO", "PARTITION"]
  forget g.exprList

/-- A new type of a column, and its options. -/
def retypedColumn (g : Grammar) : Parser Unit := do
  forget (dataType g)
  forget (many (columnOption? g))
  columnPosition g

/-- What follows the name of a column after `ALTER`. -/
def alterColumn (g : Grammar) : Parser Unit := do
  let free := g.dialect == .postgresql
  let settled ← phraseOf? [["SET", "NOT", "NULL"], ["DROP", "NOT", "NULL"]]
  if settled.isSome then return
  if ← phrase? ["SET", "DEFAULT"] then forget g.whole
  else if ← phrase? ["DROP", "DEFAULT"] then return
  else if ← phrase? ["SET", "DATA", "TYPE"] <||> allowed free (keyword? "TYPE") then
    forget (dataType g)
    if free then optional ["USING"] g.whole
  else if ← phrase? ["ADD", "GENERATED"] then
    forget (phraseOf? [["ALWAYS"], ["BY", "DEFAULT"]])
    phrase ["AS", "IDENTITY"]
    forget (identitySequence g)
  else if free then
    fail "SET/DROP NOT NULL, SET DEFAULT, SET DATA TYPE, or ADD GENERATED after ALTER COLUMN"
  else fail "SET/DROP NOT NULL, SET DEFAULT, or SET DATA TYPE after ALTER COLUMN"

/-- A part of a table. -/
def tablePart (g : Grammar) : Parser Unit := do
  forget (keywordOf ["PART", "PARTITION"])
  forget g.whole

/-- A choice of columns that is kept with a table, in one of its parts or in all. -/
def projectionPart : Parser Unit := do
  ifExists
  forget ident
  optional ["IN", "PARTITION"] ident

/-- A change of the parts of a table, if the dialect has it and one comes next. -/
def partChange? (g : Grammar) : Parser Bool := do
  if !g.isGeneric then return false
  match ← keywordOf? ["ATTACH", "DETACH", "FREEZE", "UNFREEZE"] with
  | none => return false
  | some word =>
    tablePart g
    if word == "FREEZE" || word == "UNFREEZE" then
      if ← keyword? "WITH" then
        keyword "NAME"
        forget ident
    return true

/-- The words that begin a change of a table, before those for its projections. -/
def firstChangeWords : List String := ["ADD", "RENAME", "DISABLE", "ENABLE"]

/-- The words that begin a change of a table, after those for its projections. -/
def changeWords : List String := ["DROP", "PARTITION", "CHANGE", "MODIFY", "ALTER", "SWAP"]

/-- What follows a word that begins a change of a table. -/
def changeAfter (g : Grammar) (word : String) : Parser Unit := do
  match word with
  | "ADD" => addToTable g
  | "RENAME" => renameInTable g
  | "DISABLE" =>
    switchRule [["RULE"], ["TRIGGER"]] "ROW LEVEL SECURITY, RULE, or TRIGGER after DISABLE"
  | "ENABLE" =>
    switchRule [["ALWAYS", "RULE"], ["ALWAYS", "TRIGGER"], ["REPLICA", "RULE"],
        ["REPLICA", "TRIGGER"], ["RULE"], ["TRIGGER"]]
      "ALWAYS, REPLICA, ROW LEVEL SECURITY, RULE, or TRIGGER after ENABLE"
  | "DROP" => dropFromTableOf g
  | "PARTITION" => renamePartition g
  | "CHANGE" =>
    forget (keyword? "COLUMN")
    forget ident
    forget ident
    retypedColumn g
  | "MODIFY" =>
    forget (keyword? "COLUMN")
    forget ident
    retypedColumn g
  | "ALTER" =>
    forget (keyword? "COLUMN")
    forget ident
    alterColumn g
  | _ =>
    keyword "WITH"
    forget objectName

/-- A change of a table.  The words for a projection are taken in every dialect. -/
def tableChange (g : Grammar) : Parser Unit := do
  if let some word ← keywordOf? firstChangeWords then return ← changeAfter g word
  if ← phrase? ["CLEAR", "PROJECTION"] then if g.isGeneric then return ← projectionPart
  if ← phrase? ["MATERIALIZE", "PROJECTION"] then if g.isGeneric then return ← projectionPart
  if let some word ← keywordOf? changeWords then return ← changeAfter g word
  if g.isOneOf [.postgresql, .generic] then
    if ← phrase? ["OWNER", "TO"] then return ← owner
  if ← partChange? g then return
  if ← phrase? ["CLUSTER", "BY"] then return ← forget g.exprList
  if (← phraseOf? [["SUSPEND", "RECLUSTER"], ["RESUME", "RECLUSTER"]]).isSome then return
  if ← phrase? ["SET", "TBLPROPERTIES"] then
    forget (parenthesized (commaSeparated (namedOption g)))
  else fail "ADD, RENAME, PARTITION, SWAP, DROP, or SET TBLPROPERTIES after ALTER TABLE"

/-- What follows `ALTER TABLE`. -/
def alterTable (g : Grammar) : Parser Unit := do
  ifExists
  forget (keyword? "ONLY")
  forget objectName
  onCluster
  forget (commaSeparated (tableChange g))
  if ← keyword? "LOCATION" <||> phrase? ["SET", "LOCATION"] then forget ident

/-! ### Other objects -/

/-- What follows `ALTER VIEW`. -/
def alterView (g : Grammar) : Parser Unit := do
  forget objectName
  forget (columnList? false)
  forget (optionsAfter? g "WITH")
  keyword "AS"
  forget g.query

/-- What follows `ALTER INDEX`. -/
def alterIndex : Parser Unit := do
  forget objectName
  unless ← keyword? "RENAME" do fail "RENAME after ALTER INDEX"
  unless ← keyword? "TO" do fail "TO after RENAME"
  forget objectName

/-- What follows `ALTER POLICY`. -/
def alterPolicy (g : Grammar) : Parser Unit := do
  forget ident
  keyword "ON"
  forget objectName
  if ← keyword? "RENAME" then
    keyword "TO"
    forget ident
  else policyRules g

/-- A value of a setting of a role. -/
def roleSetting (g : Grammar) : Parser Unit := do
  forget objectName
  if ← phrase? ["FROM", "CURRENT"] then return
  unless ← symbol? "=" <||> keyword? "TO" do fail "'TO' or '=' or 'FROM CURRENT'"
  unless ← keyword? "DEFAULT" do
    if (← heedless g.whole).isNone then fail "config value"

/-- A trait of a role. -/
def changedTrait (g : Grammar) : Parser Unit := do
  match ← keywordOf? roleWords with
  | some word =>
    let (_, read) ← roleTrait g word
    read
  | none => fail "option"

/-- What follows `ALTER ROLE`. -/
def alterRole (g : Grammar) : Parser Unit := do
  if g.dialect != .postgresql then
    remark "ALTER ROLE is only support for PostgreSqlDialect and MsSqlDialect" none
  forget ident
  optional ["IN", "DATABASE"] (heedless objectName)
  if ← keyword? "RENAME" then
    unless ← keyword? "TO" do fail "TO after RENAME"
    forget ident
  else if ← keyword? "SET" then roleSetting g
  else if ← keyword? "RESET" then
    unless ← keyword? "ALL" do forget objectName
  else
    forget (keyword? "WITH")
    if (← many (attempt (changedTrait g))).isEmpty then fail "option"

/-- What follows `ALTER`. -/
def alter (g : Grammar) : Parser Unit := do
  match ← keywordOf ["VIEW", "TABLE", "INDEX", "ROLE", "POLICY"] with
  | "VIEW" => alterView g
  | "TABLE" => alterTable g
  | "INDEX" => alterIndex
  | "ROLE" => alterRole g
  | _ => alterPolicy g

end TableGraph.Sql.Parser
