/-
Reading statements about cursors and about what has been prepared or is called.
-/
import TableGraph.Sql.Parser.Object

namespace TableGraph.Sql.Parser

/-! ### Cursors -/

/-- What follows `DECLARE`. -/
def declareCursor (g : Grammar) : Parser Unit := do
  forget ident
  forget (keyword? "BINARY")
  forget (keywordOf? ["INSENSITIVE", "ASENSITIVE"])
  forget (phraseOf? [["SCROLL"], ["NO", "SCROLL"]])
  keyword "CURSOR"
  if (← keywordOf? ["WITH", "WITHOUT"]).isSome then keyword "HOLD"
  keyword "FOR"
  forget g.query

/-- The rows that a cursor fetches. -/
def fetchedRows (g : Grammar) : Parser Unit := do
  let count : Parser Unit := forget (numberValue g.dialect)
  match ← keywordOf? ["NEXT", "PRIOR", "FIRST", "LAST", "ABSOLUTE", "RELATIVE", "FORWARD",
    "BACKWARD", "ALL"] with
  | some "ABSOLUTE" | some "RELATIVE" | none => count
  | some "FORWARD" | some "BACKWARD" => unless ← keyword? "ALL" do count
  | some _ => return

/-- What follows `FETCH`. -/
def fetchRows (g : Grammar) : Parser Unit := do
  fetchedRows g
  forget (keywordOf ["FROM", "IN"])
  forget ident
  optional ["INTO"] objectName

/-- What follows `CLOSE`. -/
def closeCursor : Parser Unit := do
  unless ← keyword? "ALL" do forget ident

/-! ### Calls -/

/-- What follows `CALL`. -/
def call (g : Grammar) : Parser Unit := do
  let name ← objectName
  if ← nextIs "(" then forget (functionCall g (name.qualifiers ++ [name.base]))

/-- What follows `EXECUTE`. -/
def execute (g : Grammar) : Parser Unit := do
  forget objectName
  if ← symbol? "(" then
    forget (commaSeparatedUntil ")" g.whole)
    symbol ")"
  else
    let ended := (← next?).isNone || (← nextIs ";") || (← nextIsKeyword "USING")
    unless ended do forget g.exprs
  optional ["USING"] g.exprs

/-- What follows `DEALLOCATE`. -/
def deallocate : Parser Unit := do
  forget (keyword? "PREPARE")
  forget ident

/-- What follows `ASSERT`. -/
def assert (g : Grammar) : Parser Unit := do
  forget g.whole
  optional ["AS"] g.whole

end TableGraph.Sql.Parser
