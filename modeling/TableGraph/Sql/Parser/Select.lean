/-
Reading what a query selects.

The clauses of a selection come in one order, and any of them may be missing.  Selections are
combined as sets from left to right; how strongly the sets bind does not show in the way
they are written.
-/
import TableGraph.Sql.Parser.Table

namespace TableGraph.Sql.Parser

open TableGraph.Sql.Expr

/-! ### Columns of the result -/

/-- One column, or several in parentheses. -/
def oneOrMore (p : Parser Expr) : Parser Expr := do
  if ← nextIs "(" then return .parentheses (← parenthesized (commaSeparated p)) else p

/-- A column and its new name. -/
def renamedColumn : Parser Expr := do
  let name ← identExpr
  keyword "AS"
  return words [name, "AS", ← identExpr]

/-- A value that stands for a column. -/
def replacedColumn (g : Grammar) : Parser Expr := do
  let e ← g.whole
  let marked := (← phraseOf? [["AS"]]).toList.map verbatim
  return words (e :: marked ++ [← identExpr])

/-- The columns for which others stand, after the word for it. -/
def replacedColumns (g : Grammar) : Parser Expr := do
  if ← nextIs "(" then return .parentheses (← parenthesized (commaSeparated (replacedColumn g)))
  else reject "( after REPLACE but"

/-- The columns that are left out, after `EXCEPT`. -/
def exceptedColumns : Parser Expr := do
  if ← nextIs "(" then return .parentheses ((← identList).map fun i => .path [i])
  return .parentheses [← identExpr]

/-- What is said about the columns of a star. -/
def starOptions (g : Grammar) : Parser (List Expr) := do
  if !g.isGeneric then return []
  let like ← clauseAfter? true "ILIKE" do return text .single (← singleText "ilike pattern")
  let excluded ← clauseAfter? like.isEmpty "EXCLUDE" (oneOrMore identExpr)
  let excepted ← clauseAfter? true "EXCEPT" exceptedColumns
  let replaced ← clauseAfter? true "REPLACE" (replacedColumns g)
  let renamed ← clauseAfter? true "RENAME" (oneOrMore renamedColumn)
  return like ++ excluded ++ excepted ++ replaced ++ renamed

/-- An unquoted word in any case. -/
def isBareWord (i : Ident) (lowered : String) : Bool :=
  i.quote.isNone && Text.lowercase i.text == lowered

/-- A column of a query's result. -/
def selectItem (g : Grammar) : Parser Expr := do
  match ← starOrExpr g with
  | .star qualifiers => return words (.star qualifiers :: (← starOptions g))
  | e =>
    if let .path [word] := e then
      if isBareWord word "from" then
        remark ("Expected an expression, found: " ++ word.text) (← place?)
    return words (e :: preceded "AS" (← alias? columnAliasStops))

/-! ### The beginning of a selection -/

/-- Whether equal rows count once. -/
def distinct? (g : Grammar) : Parser (List Expr) := do
  let place ← place?
  let all ← keyword? "ALL"
  if ← keyword? "DISTINCT" then
    if all then remark "Cannot specify both ALL and DISTINCT" place
    if ← keyword? "ON" then
      let keys ← parenthesized (commaSeparatedUntil ")" g.whole)
      return [called "DISTINCT ON " (listed keys)]
    return ["DISTINCT"]
  return []

/-- How many rows are taken from the top. -/
def top? (g : Grammar) : Parser (List Expr) := do
  if ← keyword? "TOP" then
    let count ←
      if ← nextIs "(" then pure (Expr.parentheses [← parenthesized g.whole])
      else pure (verbatim (toString (← natural 64)))
    let percent := (← phraseOf? [["PERCENT"]]).toList.map verbatim
    let ties := (← phraseOf? [["WITH", "TIES"]]).toList.map verbatim
    return [words ([verbatim "TOP", count] ++ percent ++ ties)]
  return []

/-- The table that the result is put into. -/
def into? : Parser (List Expr) := do
  if ← keyword? "INTO" then
    let temporary := (← keywordOf? ["TEMP", "TEMPORARY"]).toList.map fun _ => verbatim "TEMPORARY"
    let unlogged := (← phraseOf? [["UNLOGGED"]]).toList.map verbatim
    let table := (← phraseOf? [["TABLE"]]).toList.map verbatim
    return [words (verbatim "INTO" :: temporary ++ unlogged ++ table ++ [ofName (← objectName)])]
  return []

/-- The words that are no alias of a column of a view, unless `AS` stands before them. -/
def viewAliasStops : List String := ["WHERE", "GROUP", "CLUSTER", "HAVING", "LATERAL"]

/-- A view of the parts of a row, if one comes next. -/
def lateralView? (g : Grammar) : Parser (Option Expr) := do
  if ← phrase? ["LATERAL", "VIEW"] then
    let outer := (← phraseOf? [["OUTER"]]).toList.map verbatim
    let e ← g.whole
    let name ← objectName
    let columns ← commaSeparated (alias? viewAliasStops)
    return some (words (verbatim "LATERAL VIEW" :: outer ++ [e, ofName name]
      ++ clause "AS" (columns.filterMap id)))
  return none

/-! ### Groups -/

/-- Expressions in parentheses, or none. -/
def emptyOrExprs (g : Grammar) : Parser (List Expr) :=
  parenthesized (commaSeparatedUntil ")" g.whole)

/-- Expressions that count as one of several levels: in parentheses if there is not one. -/
def groupLevel (g : Grammar) : Parser Expr := do
  if ← nextIs "(" then
    match ← emptyOrExprs g with
    | [e] => return e
    | es => return .parentheses es
  else g.whole

/-- What rows are grouped by. -/
def groupKey (g : Grammar) : Parser Expr := do
  if !g.isOneOf [.postgresql, .generic] then return ← g.whole
  if ← phrase? ["GROUPING", "SETS"] then
    let sets ← parenthesized (commaSeparated do return .parentheses (← emptyOrExprs g))
    return called "GROUPING SETS " (listed sets)
  match ← keywordOf? ["CUBE", "ROLLUP"] with
  | some word =>
    return called (word ++ " ") (listed (← parenthesized (commaSeparated (groupLevel g))))
  | none =>
    match ← get with
    | ⟨.symbol "(", _⟩ :: ⟨.symbol ")", _⟩ :: rest => set rest; return .parentheses []
    | _ => g.whole

/-- One more thing said about groups, if the dialect has it. -/
def groupModifier? (g : Grammar) : Parser (Option Expr) := do
  if !g.isGeneric then return none
  if ← keyword? "WITH" then
    return some (verbatim ("WITH " ++ (← keywordOf ["ROLLUP", "CUBE", "TOTALS"])))
  return none

/-- The groups of the rows, if they are said. -/
def groups? (g : Grammar) : Parser (List Expr) := do
  if ← phrase? ["GROUP", "BY"] then
    let keys ← if ← keyword? "ALL" then pure (verbatim "ALL")
      else listed <$> commaSeparated (groupKey g)
    return [words ([verbatim "GROUP BY", keys] ++ (← many (groupModifier? g)))]
  return []

/-! ### The end of a selection -/

/-- A window with a name. -/
def namedWindow (g : Grammar) : Parser Expr := do
  let name ← identExpr
  keyword "AS"
  if ← symbol? "(" then return words [name, called "AS " (← window g)]
  if g.isGeneric then return words [name, "AS", ← identExpr]
  fail "("

/-- The windows with names and the choice of rows by them, in any order. -/
def windows? (g : Grammar) : Parser (List Expr) := do
  let named := clauseOf? ["WINDOW"] do return listed (← commaSeparated (namedWindow g))
  let chosen := clauseOf? ["QUALIFY"] g.whole
  if ← nextIsKeyword "WINDOW" then return (← named) ++ (← chosen)
  match ← chosen with
  | [] => return []
  | c => return c ++ (← named)

/-- How rows are related to the rows above them, if the dialect has it. -/
def hierarchy? (g : Grammar) : Parser (List Expr) := do
  if !g.isGeneric then return []
  let related : Parser Expr := do
    phrase ["CONNECT", "BY"]
    return words ["CONNECT BY", listed (← commaSeparated g.relation)]
  let started : Parser Expr := do
    phrase ["START", "WITH"]
    return words ["START WITH", ← g.whole]
  if ← nextArePhrase ["CONNECT", "BY"] then
    let relation ← related
    return [← started, relation]
  if ← nextIsOneOf ["START", "CONNECT"] then return [← started, ← related]
  return []

/-- A selection. -/
def select (g : Grammar) : Parser Expr := do
  keyword "SELECT"
  let distinct ← distinct? g
  let top ← top? g
  let items ← commaSeparated (selectItem g)
  let into ← into?
  let tables ← if ← keyword? "FROM" then commaSeparated (joinedTables g) else pure []
  let views ← many (lateralView? g)
  let early ← if g.isGeneric then clauseOf? ["PREWHERE"] g.whole else pure []
  let chosen ← clauseOf? ["WHERE"] g.whole
  let groups ← groups? g
  let exprs := do return listed (← g.exprs)
  let cluster ← clauseOf? ["CLUSTER", "BY"] exprs
  let distribute ← clauseOf? ["DISTRIBUTE", "BY"] exprs
  let sort ← clauseOf? ["SORT", "BY"] exprs
  let having ← clauseOf? ["HAVING"] g.whole
  let windows ← windows? g
  let hierarchy ← hierarchy? g
  return words (verbatim "SELECT" :: distinct ++ top ++ [listed items] ++ into
    ++ clause "FROM" tables ++ views ++ early ++ chosen ++ groups ++ cluster ++ distribute ++ sort
    ++ having ++ windows ++ hierarchy)

/-! ### Sets -/

/-- A table as a query.  Three tokens are taken, even if the name of the table is one. -/
def wholeTable : Parser Expr := do
  let tokens ← get
  set (tokens.drop 3)
  match tokens with
  | ⟨.word s, _⟩ :: ⟨.symbol ".", _⟩ :: ⟨.word t, _⟩ :: _ =>
    return verbatim ("TABLE " ++ s.text ++ "." ++ t.text)
  | ⟨.word _, _⟩ :: ⟨.symbol ".", _⟩ :: rest => throw (.unexpected "Table name" rest.head?)
  | first :: ⟨.symbol ".", _⟩ :: _ => throw (.unexpected "Schema name" (some first))
  | ⟨.word t, _⟩ :: _ => return verbatim ("TABLE " ++ t.text)
  | _ => throw (.unexpected "Table name" tokens.head?)

/-- A query without what combines, orders and cuts its result. -/
def simpleQuery (g : Grammar) : Parser Expr := do
  if ← nextIsKeyword "SELECT" then select g
  else if ← nextIs "(" then return .subquery (← parenthesized g.query)
  else if ← keyword? "VALUES" then rows g (g.dialect == .mysql)
  else if ← keyword? "TABLE" then wholeTable
  else fail "SELECT, VALUES, or a subquery in the query body"

/-- Which rows of two sets are kept, if it is said. -/
def setQuantifier? : Parser (List Expr) := do
  let found ← phraseOf? [["DISTINCT", "BY", "NAME"], ["BY", "NAME"], ["ALL", "BY", "NAME"], ["ALL"],
    ["DISTINCT"]]
  return found.toList.map verbatim

/-- Queries that are combined as sets. -/
def querySet (g : Grammar) : Parser Expr := do
  let first ← simpleQuery g
  let others ← many do
    match ← keywordOf? ["UNION", "EXCEPT", "INTERSECT"] with
    | some operator =>
      let quantifier ← setQuantifier?
      return some (words (verbatim operator :: quantifier ++ [← simpleQuery g]))
    | none => return none
  return words (first :: others)

end TableGraph.Sql.Parser
