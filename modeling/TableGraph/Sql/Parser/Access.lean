/-
Reading statements that grant and revoke rights.
-/
import TableGraph.Sql.Parser.Object

namespace TableGraph.Sql.Parser

/-- The rights that may be granted for some columns only. -/
def columnRights : List String := ["INSERT", "REFERENCES", "SELECT", "UPDATE"]

/-- The rights that are granted for whole objects. -/
def objectRights : List String :=
  ["CONNECT", "CREATE", "DELETE", "EXECUTE", "TEMPORARY", "TRIGGER", "TRUNCATE", "USAGE"]

/-- A right, and the columns it is for. -/
def right : Parser Unit := do
  if (← keywordOf? columnRights).isSome then forget (columnList? false)
  else if (← keywordOf? objectRights).isNone then fail "a privilege keyword"

/-- Rights, and the objects they are for. -/
def rightsOnObjects : Parser Unit := do
  if ← keyword? "ALL" then forget (keyword? "PRIVILEGES") else forget (commaSeparated right)
  keyword "ON"
  let all := [["ALL", "TABLES", "IN", "SCHEMA"], ["ALL", "SEQUENCES", "IN", "SCHEMA"]]
  if (← phraseOf? all).isNone then forget (keywordOf? ["SEQUENCE", "SCHEMA", "TABLE"])
  forget objectNames

/-- What follows `GRANT`. -/
def grant : Parser Unit := do
  rightsOnObjects
  keyword "TO"
  idents
  forget (phrase? ["WITH", "GRANT", "OPTION"])
  optional ["GRANTED", "BY"] ident

/-- What follows `REVOKE`. -/
def revoke : Parser Unit := do
  rightsOnObjects
  keyword "FROM"
  idents
  optional ["GRANTED", "BY"] ident
  let place ← place?
  let cascade ← keyword? "CASCADE"
  if (← keyword? "RESTRICT") && cascade then
    remark "Cannot specify both CASCADE and RESTRICT in REVOKE" place

end TableGraph.Sql.Parser
