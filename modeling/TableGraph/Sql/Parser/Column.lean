/-
Reading the columns of a table.

A few words are options of a column in some dialects only; elsewhere such a word is taken
all the same, and ends the options of its column if nothing after it is one.
-/
import TableGraph.Sql.Parser.Query
import TableGraph.Sql.CreateTable

namespace TableGraph.Sql.Parser

open TableGraph.Sql.Expr

/-! ### References and timing -/

/-- What is done to a row when the row it refers to changes. -/
def referentialAction : Parser ReferentialAction := do
  if ← keyword? "RESTRICT" then return .restrict
  if ← keyword? "CASCADE" then return .cascade
  if ← phrase? ["SET", "NULL"] then return .setNull
  if ← phrase? ["NO", "ACTION"] then return .noAction
  if ← phrase? ["SET", "DEFAULT"] then return .setDefault
  fail "one of RESTRICT, CASCADE, SET NULL, NO ACTION or SET DEFAULT"

/-- One more thing about the timing of a constraint; each may be said once. -/
def timingStep (t : Timing) : Parser (Option Timing) := do
  if t.deferrable.isNone then
    if ← phrase? ["NOT", "DEFERRABLE"] then return some { t with deferrable := some false }
    if ← keyword? "DEFERRABLE" then return some { t with deferrable := some true }
  if t.initiallyDeferred.isNone then
    if ← keyword? "INITIALLY" then
      match ← keywordOf? ["DEFERRED", "IMMEDIATE"] with
      | some word => return some { t with initiallyDeferred := some (word == "DEFERRED") }
      | none => fail "one of DEFERRED or IMMEDIATE"
  if t.enforced.isNone then
    if ← keyword? "ENFORCED" then return some { t with enforced := some true }
    if ← phrase? ["NOT", "ENFORCED"] then return some { t with enforced := some false }
  return none

/-- The timing of a constraint. -/
def timing : Parser Timing := loop timingStep {}

/-- One more action of a reference; each may be said once. -/
def actionStep (r : Reference) : Parser (Option Reference) := do
  if r.onDelete.isNone then
    if ← phrase? ["ON", "DELETE"] then return some { r with onDelete := some (← referentialAction) }
  if r.onUpdate.isNone then
    if ← phrase? ["ON", "UPDATE"] then return some { r with onUpdate := some (← referentialAction) }
  return none

/-- What follows `REFERENCES`; `columns` reads the columns that are referred to. -/
def reference (columns : Parser (List Ident)) : Parser Reference := do
  let table ← objectName
  let acted ← loop actionStep { table, columns := ← columns }
  return { acted with timing := ← timing }

/-! ### Options with names and values -/

/-- The direction in which a column is sorted. -/
def sortedColumn : Parser Expr := do return words ((← identExpr) :: (← direction?))

/-- How a table is kept in the order of columns. -/
def clusteredOption : Parser Expr := do
  let columnar := ["CLUSTERED", "COLUMNSTORE", "INDEX"]
  if ← phrase? (columnar ++ ["ORDER"]) then
    return called "CLUSTERED COLUMNSTORE INDEX ORDER " (ofIdents (← columnList))
  if ← phrase? columnar then return "CLUSTERED COLUMNSTORE INDEX"
  if ← phrase? ["CLUSTERED", "INDEX"] then
    return called "CLUSTERED INDEX " (listed (← parenthesized (commaSeparated sortedColumn)))
  remark "invalid CLUSTERED sequence" none

/-- How a table is cut into parts. -/
def partitionOption (g : Grammar) : Parser Expr := do
  keyword "PARTITION"
  called "PARTITION " <$> parenthesized do
    let column ← identExpr
    keyword "RANGE"
    let side := (← keywordOf? ["LEFT", "RIGHT"]).toList.map verbatim
    phrase ["FOR", "VALUES"]
    let values ← g.exprList
    return words ([column, verbatim "RANGE"] ++ side
      ++ [called "FOR VALUES " (listed values)])

/-- An option of a table or of a column. -/
def namedOption (g : Grammar) : Parser Expr := do
  if g.isGeneric then
    if ← nextIsKeyword "HEAP" then return ← identExpr
    if ← nextIsKeyword "PARTITION" then return ← partitionOption g
    if ← nextIsKeyword "CLUSTERED" then return ← clusteredOption
  let name ← identExpr
  symbol "="
  return .binary name "=" (← g.whole)

/-- Options in parentheses after a keyword, or none. -/
def optionsAfter? (g : Grammar) (word : String) : Parser (List Expr) := do
  if ← keyword? word then parenthesized (commaSeparated (namedOption g)) else return []

/-! ### Sequences -/

/-- A word, and a number after it and the word that may stand between them. -/
def counted? (g : Grammar) (word between : String) : Parser (List Expr) := do
  if ← keyword? word then
    let marked := (← phraseOf? [[between]]).toList.map verbatim
    return [words (verbatim word :: marked ++ [← signedNumber g.dialect])]
  return []

/-- A bound of a sequence, or the word that it has none. -/
def sequenceBound? (g : Grammar) (word : String) : Parser (List Expr) := do
  if ← keyword? word then return [words [.verbatim word, ← signedNumber g.dialect]]
  if ← phrase? ["NO", word] then return [verbatim ("NO " ++ word)]
  return []

/-- What is said about a sequence. -/
def sequenceOptions (g : Grammar) : Parser (List Expr) := do
  let increment ← counted? g "INCREMENT" "BY"
  let least ← sequenceBound? g "MINVALUE"
  let greatest ← sequenceBound? g "MAXVALUE"
  let start ← counted? g "START" "WITH"
  let cache ← clauseAfter? true "CACHE" (signedNumber g.dialect)
  let cycle := (← phraseOf? [["NO", "CYCLE"], ["CYCLE"]]).toList.map verbatim
  return increment ++ least ++ greatest ++ start ++ cache ++ cycle

/-! ### Options of columns -/

/-- The words that leave a column without a type, where that is allowed. -/
def untypedStops : List String := [
  "CONSTRAINT", "PRIMARY", "NOT", "UNIQUE", "CHECK", "DEFAULT", "COLLATE", "REFERENCES",
  "GENERATED", "AS"]

/-- The type of a column. -/
def columnType (g : Grammar) : Parser DataType := do
  if g.dialect == .sqlite then
    match ← next? with
    | some (.word w) => if w.isOneOf untypedStops then return .unspecified
    | _ => return .unspecified
  dataType g

/-- How a computed column is kept. -/
def keeping : Parser Keeping := do
  match ← keywordOf? ["STORED", "VIRTUAL"] with
  | some "STORED" => return .stored
  | some _ => return .computed
  | none => return .unstated

/-- The sequence of a number that is counted. -/
def identitySequence (g : Grammar) : Parser (List Expr) := do
  if ← nextIs "(" then parenthesized (sequenceOptions g) else return []

/-- What follows `GENERATED`. -/
def generated? (g : Grammar) : Parser (Option ColumnOption) := do
  if ← phrase? ["ALWAYS", "AS", "IDENTITY"] then
    return some (.identity .always (← identitySequence g))
  if ← phrase? ["BY", "DEFAULT", "AS", "IDENTITY"] then
    return some (.identity .byDefault (← identitySequence g))
  if ← phrase? ["ALWAYS", "AS"] then
    if ← nextIs "(" then
      let e ← parenthesized g.whole
      if g.dialect == .postgresql then
        unless ← nextIsKeyword "STORED" do fail "STORED"
      return some (.computed true e (← keeping))
  return none

/-- What follows `IDENTITY`. -/
def identityStart (g : Grammar) : Parser ColumnOption := do
  if ← nextIs "(" then
    let numbers ← parenthesized do
      let first ← signedNumber g.dialect
      symbol ","
      return listed [first, ← signedNumber g.dialect]
    return .words (called "IDENTITY" numbers).render
  return .words "IDENTITY"

/-- What follows `EPHEMERAL`. -/
def ephemeral (g : Grammar) : Parser ColumnOption := do
  if (← nextIs ",") || (← nextIs ")") then return .derived "EPHEMERAL" none
  return .derived "EPHEMERAL" (some (← g.whole))

/-- What is done on a conflict. -/
def conflictActions : List String := ["ROLLBACK", "ABORT", "FAIL", "IGNORE", "REPLACE"]

/-- An option of a column that not every dialect has.  The words of those that are read last
are taken in every dialect. -/
def rareOption? (g : Grammar) : Parser (Option ColumnOption) := do
  let counting := g.isOneOf [.mysql, .generic]
  let light := g.isOneOf [.sqlite, .generic]
  if ← keyword? "AUTO_INCREMENT" then if counting then return some (.words "AUTO_INCREMENT")
  if ← keyword? "AUTOINCREMENT" then if light then return some (.words "AUTOINCREMENT")
  if ← keyword? "ASC" then if light then return some (.words "ASC")
  if ← keyword? "DESC" then if light then return some (.words "DESC")
  if ← phrase? ["ON", "UPDATE"] then if counting then return some (.onUpdate (← g.whole))
  if ← keyword? "GENERATED" then return ← generated? g
  if g.isGeneric && (← nextIsKeyword "OPTIONS") then
    return some (.words (called "OPTIONS" (listed (← optionsAfter? g "OPTIONS"))).render)
  if ← keyword? "AS" then
    if g.dialect != .postgresql then
      let e ← parenthesized g.whole
      return some (.computed false e (← keeping))
  if ← keyword? "IDENTITY" then if g.isGeneric then return some (← identityStart g)
  if light then
    if ← phrase? ["ON", "CONFLICT"] then
      return some (.onConflict (← keywordOf conflictActions))
  return none

/-- An option of a column. -/
def columnOption? (g : Grammar) : Parser (Option ColumnOption) := do
  if ← phrase? ["CHARACTER", "SET"] then return some (.characterSet (← objectName))
  if ← phrase? ["NOT", "NULL"] then return some .notNull
  if ← keyword? "COMMENT" then return some (.comment (← singleText "string"))
  if ← keyword? "NULL" then return some .null
  if ← keyword? "DEFAULT" then return some (.default (← g.whole))
  if g.isGeneric then
    if let some word ← keywordOf? ["MATERIALIZED", "ALIAS"] then
      return some (.derived word (some (← g.whole)))
    if ← keyword? "EPHEMERAL" then return some (← ephemeral g)
  if ← phrase? ["PRIMARY", "KEY"] then return some (.primaryKey (← timing))
  if ← keyword? "UNIQUE" then return some (.unique (← timing))
  if ← keyword? "REFERENCES" then return some (.references (← reference (columnList? false)))
  if ← keyword? "CHECK" then return some (.check (← parenthesized g.whole))
  rareOption? g

/-! ### Columns -/

/-- What is known of a column after its type; the options have the last first. -/
structure ColumnTail where
  collation : Option ObjectName := none
  options : List NamedOption := []

/-- The next option of a column, or the end of its options. -/
def columnStep (g : Grammar) (c : ColumnTail) : Parser (Option ColumnTail) := do
  if ← keyword? "CONSTRAINT" then
    let name ← ident
    match ← columnOption? g with
    | some option => return some { c with options := ⟨some name, option⟩ :: c.options }
    | none => fail "constraint details after CONSTRAINT <name>"
  match ← columnOption? g with
  | some option => return some { c with options := ⟨none, option⟩ :: c.options }
  | none =>
    if g.isOneOf [.mysql, .generic] then
      if ← keyword? "COLLATE" then return some { c with collation := some (← objectName) }
    return none

/-- What follows the type of a column. -/
def columnTail (g : Grammar) : Parser ColumnTail := do
  let tail ← loop (columnStep g) { collation := ← after? ["COLLATE"] objectName }
  return { tail with options := tail.options.reverse }

/-- What follows the type of a column, as it is written: each part has a blank before it. -/
def ColumnTail.toExpr (c : ColumnTail) : Expr :=
  joined (c.collation.toList.map (fun name => joined [" COLLATE ", ofName name])
    ++ c.options.map fun o => verbatim (" " ++ o.render))

/-- A column. -/
def columnDef (g : Grammar) : Parser ColumnDef := do
  let name ← ident
  let type ← columnType g
  let tail ← columnTail g
  return ⟨name, type, tail.collation, tail.options⟩

end TableGraph.Sql.Parser
