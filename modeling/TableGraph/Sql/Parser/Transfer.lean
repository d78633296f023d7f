/-
Reading statements that move rows between tables, files and memory.

Rows that are copied into a table may stand in the script itself, after the statement.  They
have been cut into tokens like the rest of the script, and are passed over up to a backslash
and a point.
-/
import TableGraph.Sql.Parser.Object
import TableGraph.Text.Visible

namespace TableGraph.Sql.Parser

/-! ### Copies -/

/-- A text of one byte. -/
def byteText (g : Grammar) : Parser Unit := do
  let place ← place?
  let s ← literalText g.dialect
  if s.utf8ByteSize != 1 then remark ("Expect a char, found " ++ Text.visible s) place

/-- The words that begin an option of a copy. -/
def copyWords : List String := [
  "FORMAT", "FREEZE", "DELIMITER", "NULL", "HEADER", "QUOTE", "ESCAPE", "FORCE_QUOTE",
  "FORCE_NOT_NULL", "FORCE_NULL", "ENCODING"]

/-- An option of a copy. -/
def copyOption (g : Grammar) : Parser Unit := do
  match ← keywordOf? copyWords with
  | some "FORMAT" => forget ident
  | some "FREEZE" | some "HEADER" => forget (keywordOf? ["TRUE", "FALSE"])
  | some "DELIMITER" | some "QUOTE" | some "ESCAPE" => byteText g
  | some "NULL" | some "ENCODING" => forget (literalText g.dialect)
  | some _ => forget columnList
  | none => fail "option"

/-- An option of the form of a copied file. -/
def fileOption (g : Grammar) : Parser Unit := do
  match ← keywordOf? ["HEADER", "QUOTE", "ESCAPE", "FORCE"] with
  | some "HEADER" => return
  | some "FORCE" =>
    if (← phraseOf? [["NOT", "NULL"], ["QUOTE"]]).isNone then fail "csv option"
    idents
  | some _ =>
    forget (keyword? "AS")
    byteText g
  | none => fail "csv option"

/-- An option of a copy in its older form. -/
def olderCopyOption (g : Grammar) : Parser Unit := do
  match ← keywordOf? ["BINARY", "DELIMITER", "NULL", "CSV"] with
  | some "BINARY" => return
  | some "DELIMITER" =>
    forget (keyword? "AS")
    byteText g
  | some "NULL" =>
    forget (keyword? "AS")
    forget (literalText g.dialect)
  | some _ => forget (many (attempt (fileOption g)))
  | none => fail "option"

/-- What is left after rows that stand in the script: they end with a backslash and a point.
After any other backslash a token is passed over. -/
def afterRows : List Lexeme → List Lexeme
  | [] => []
  | ⟨.symbol "\\", _⟩ :: ⟨.symbol ".", _⟩ :: rest => rest
  | ⟨.symbol "\\", _⟩ :: _ :: rest => afterRows rest
  | _ :: rest => afterRows rest

/-- Where copied rows come from or go to; whether they stand in the script. -/
def copyTarget (g : Grammar) : Parser Bool := do
  match ← keywordOf? ["STDIN", "STDOUT", "PROGRAM"] with
  | some "STDIN" => return true
  | some "STDOUT" => return false
  | _ =>
    forget (literalText g.dialect)
    return false

/-- The rows that are copied; whether a query gives them. -/
def copySource (g : Grammar) : Parser Bool := do
  if ← nextIs "(" then
    forget (parenthesized g.query)
    return true
  forget objectName
  forget (columnList? false)
  return false

/-- What follows `COPY`. -/
def copy (g : Grammar) : Parser Unit := do
  let queried ← copySource g
  match ← keywordOf? ["FROM", "TO"] with
  | none => fail "FROM or TO"
  | some direction =>
    if direction == "FROM" && queried then
      remark "COPY ... FROM does not support query as a source" none
  let inScript ← copyTarget g
  forget (keyword? "WITH")
  if ← nextIs "(" then forget (parenthesized (commaSeparated (copyOption g)))
  forget (many (attempt (olderCopyOption g)))
  if inScript then
    symbol ";"
    modify afterRows

/-- What follows `UNLOAD`. -/
def unload (g : Grammar) : Parser Unit := do
  forget (parenthesized g.query)
  keyword "TO"
  forget ident
  forget (optionsAfter? g "WITH")

/-! ### Databases and extensions -/

/-- What follows `ATTACH`. -/
def attach (g : Grammar) : Parser Unit := do
  forget (keyword? "DATABASE")
  forget g.whole
  keyword "AS"
  forget ident

/-- What follows `DETACH`. -/
def detach : Parser Unit := do
  forget (keyword? "DATABASE")
  ifExists
  forget ident

/-- What follows `LOAD`. -/
def load (g : Grammar) : Parser Unit := do
  if g.isOneOf [.postgresql, .generic] then forget ident
  else
    forget (keyword? "DATA")
    fail "\x60DATA\x60 or an extension name after \x60LOAD\x60"

/-! ### Tables in memory and on disk -/

/-- A query, which `AS` may stand before. -/
def queryAfterAs (g : Grammar) : Parser Unit := do
  match ← next? with
  | some (.word _) =>
    forget (keyword? "AS")
    forget g.query
  | _ => fail "a QUERY statement"

/-- A table that is kept in memory, up to the end of the script. -/
def cachedTable (g : Grammar) : Parser Unit := do
  forget objectName
  forget (optionsAfter? g "OPTIONS")
  if (← next?).isSome then queryAfterAs g

/-- What follows `CACHE`. -/
def cache (g : Grammar) : Parser Unit := do
  if ← keyword? "TABLE" then cachedTable g
  else
    let before ← get
    forget objectName
    if ← keyword? "TABLE" then cachedTable g
    else
      let found ← get
      match found with
      | [] => throw (.unexpected "a \x60TABLE\x60 keyword" before.getLast?)
      | _ => fail "a \x60TABLE\x60 keyword"

/-- What follows `UNCACHE`. -/
def uncache : Parser Unit := do
  keyword "TABLE"
  ifExists
  forget objectName

/-- What follows `ANALYZE`. -/
def analyze (g : Grammar) : Parser Unit := do
  keyword "TABLE"
  forget objectName
  forget <| many do
    match ← keywordOf? ["PARTITION", "FOR", "CACHE", "NOSCAN", "COMPUTE"] with
    | none => return none
    | some word =>
      match word with
      | "PARTITION" => forget g.exprList
      | "FOR" =>
        keyword "COLUMNS"
        forget (attempt idents)
      | "CACHE" => keyword "METADATA"
      | "COMPUTE" => keyword "STATISTICS"
      | _ => pure ()
      return some ()

/-- What follows `MSCK`. -/
def repair : Parser Unit := do
  forget (keyword? "REPAIR")
  keyword "TABLE"
  forget objectName
  forget <| attempt do
    forget (keywordOf? ["ADD", "DROP", "SYNC"])
    keyword "PARTITIONS"

/-- What follows `OPTIMIZE`. -/
def optimize (g : Grammar) : Parser Unit := do
  keyword "TABLE"
  forget objectName
  onCluster
  if ← keyword? "PARTITION" then
    if ← keyword? "ID" then forget ident else forget g.whole
  forget (keyword? "FINAL")
  if ← keyword? "DEDUPLICATE" then optional ["BY"] g.whole

/-- What follows `TRUNCATE`. -/
def truncate (g : Grammar) : Parser Unit := do
  forget (keyword? "TABLE")
  forget (keyword? "ONLY")
  forget objectNames
  optional ["PARTITION"] g.exprList
  if g.isOneOf [.postgresql, .generic] then
    forget (phraseOf? [["RESTART", "IDENTITY"], ["CONTINUE", "IDENTITY"]])
    dropBehaviour
  onCluster

end TableGraph.Sql.Parser
