/-
Reading whole queries.

A query may name other queries first, and order, cut and lock its result at the end.
-/
import TableGraph.Sql.Parser.Rows

namespace TableGraph.Sql.Parser

open TableGraph.Sql.Expr

/-! ### Named queries -/

/-- Whether a named query is computed once, if it is said. -/
def materialized? (g : Grammar) : Parser (List Expr) := do
  if g.dialect != .postgresql then return []
  return (← phraseOf? [["MATERIALIZED"], ["NOT", "MATERIALIZED"]]).toList.map verbatim

/-- A query with a name. -/
def namedQuery (g : Grammar) : Parser Expr := do
  let name ← identExpr
  let columns ← if ← nextIsKeyword "AS" then pure [] else aliasColumns? g
  keyword "AS"
  let materialized ← materialized? g
  let query ← parenthesized g.query
  let source ← clauseOf? ["FROM"] identExpr
  return words ([withColumns name columns, verbatim "AS"] ++ materialized ++ [.subquery query]
    ++ source)

/-- The queries that a query names first. -/
def namedQueries? (g : Grammar) : Parser (List Expr) := do
  if ← keyword? "WITH" then
    let recursive := (← phraseOf? [["RECURSIVE"]]).toList.map verbatim
    return [words (verbatim "WITH" :: recursive ++ [listed (← commaSeparated (namedQuery g))])]
  return []

/-! ### Order and limits -/

/-- The column whose missing values are computed. -/
def filledColumn (g : Grammar) : Parser Expr := do
  let name ← identExpr
  return words (name :: (← clauseOf? ["AS"] g.whole))

/-- How missing rows are computed, if the dialect has it. -/
def interpolation? (g : Grammar) : Parser (List Expr) := do
  if !g.isGeneric then return []
  if ← keyword? "INTERPOLATE" then
    if ← nextIs "(" then
      let columns ← parenthesized (commaSeparatedUntil ")" (filledColumn g))
      return [called "INTERPOLATE " (listed columns)]
    return ["INTERPOLATE"]
  return []

/-- The order of the rows of a query. -/
def queryOrder? (g : Grammar) : Parser (List Expr) := do
  match ← order? g with
  | [] => return []
  | order => return order ++ (← interpolation? g)

/-- How many rows are left out. -/
def offset (g : Grammar) : Parser Expr := do
  let count ← g.whole
  return words (count :: (← keywordOf? ["ROWS", "ROW"]).toList.map verbatim)

/-- How many rows of the result are taken, and how many are left out before them. -/
structure Bounds where
  limit : Option Expr := none
  offset : Option Expr := none

/-- Reads bounds, if some come next that are not known yet. -/
def boundsRound (g : Grammar) (b : Bounds) : Parser Bounds := do
  let b ← if ← allowed b.limit.isNone (keyword? "LIMIT") then pure { b with limit := ← limit g }
    else pure b
  let b ← if ← allowed b.offset.isNone (keyword? "OFFSET") then
      pure { b with offset := some (← offset g) }
    else pure b
  let paired := g.dialect != .postgresql && b.limit.isSome && b.offset.isNone
  if ← allowed paired (symbol? ",") then
    return { limit := some (← g.whole), offset := b.limit }
  return b

/-- The bounds of the result, as they are written. -/
def bounds (g : Grammar) : Parser (List Expr) := do
  let b ← boundsRound g (← boundsRound g {})
  return preceded "LIMIT" b.limit ++ preceded "OFFSET" b.offset

/-- How many of the first rows are taken. -/
def fetch? (g : Grammar) : Parser (List Expr) := do
  if ← keyword? "FETCH" then
    let _ ← keywordOf ["FIRST", "NEXT"]
    let count ←
      if (← keywordOf? ["ROW", "ROWS"]).isSome then pure []
      else
        let count ← value g.dialect
        let percent := (← phraseOf? [["PERCENT"]]).toList.map verbatim
        let _ ← keywordOf ["ROW", "ROWS"]
        pure (count :: percent)
    match ← phraseOf? [["ONLY"], ["WITH", "TIES"]] with
    | some rule => return [words (verbatim "FETCH FIRST" :: count ++ [verbatim "ROWS", verbatim rule])]
    | none => fail "one of ONLY or WITH TIES"
  return []

/-! ### Locks and forms of the result -/

/-- A word, and a text in parentheses after it if there is one. -/
def namedForm (g : Grammar) (word : String) : Parser Expr := do
  if ← nextIs "(" then
    return verbatim (word ++ "('" ++ (← parenthesized (literalText g.dialect)) ++ "')")
  return verbatim word

/-- What is said about a result that is a document; what is not known ends the list after
its comma. -/
def documentOptions (g : Grammar) (known : List String) : Parser (List (String × Expr)) :=
  many do
    if ← symbol? "," then
      match ← keywordOf? known with
      | some "ROOT" =>
        let name ← parenthesized (literalText g.dialect)
        return some ("ROOT", verbatim ("ROOT('" ++ name ++ "')"))
      | some "BINARY" => keyword "BASE64"; return some ("BINARY", "BINARY BASE64")
      | some word => return some (word, verbatim word)
      | none => return some ("", "")
    else return none

/-- The options in the order in which they are written. -/
def arranged (order : List String) (options : List (String × Expr)) : List Expr :=
  order.filterMap fun word => (options.reverse.lookup word)

/-- A result that is a document, if `FOR` begins to say so. -/
def resultForm? (g : Grammar) : Parser (Option Expr) := do
  if ← keyword? "XML" then
    let form ← match ← keywordOf? ["RAW", "AUTO", "EXPLICIT", "PATH"] with
      | some "RAW" => namedForm g "RAW"
      | some "PATH" => namedForm g "PATH"
      | some word => pure (verbatim word)
      | none => remark "Expected FOR XML [RAW | AUTO | EXPLICIT | PATH ]" none
    let options ← documentOptions g ["ELEMENTS", "BINARY", "ROOT", "TYPE"]
    return some (words ["FOR XML",
      listed (form :: arranged ["BINARY", "TYPE", "ROOT", "ELEMENTS"] options)])
  if ← keyword? "JSON" then
    let form ← match ← keywordOf? ["AUTO", "PATH"] with
      | some word => pure (verbatim word)
      | none => remark "Expected FOR JSON [AUTO | PATH ]" none
    let known := ["ROOT", "INCLUDE_NULL_VALUES", "WITHOUT_ARRAY_WRAPPER"]
    let options ← documentOptions g known
    return some (words ["FOR JSON", listed (form :: arranged known options)])
  if ← keyword? "BROWSE" then return some "FOR BROWSE"
  return none

/-- A lock on the rows of the result. -/
def lock : Parser Expr := do
  let kind ← keywordOf ["UPDATE", "SHARE"]
  let table ← clauseOf? ["OF"] do return ofName (← objectName)
  let waiting := (← phraseOf? [["NOWAIT"], ["SKIP", "LOCKED"]]).toList.map verbatim
  return words (verbatim ("FOR " ++ kind) :: table ++ waiting)

/-- The locks, and the form of the result, which ends them. -/
def locks (g : Grammar) : Parser (List Expr) := do
  let (found, _) ← loop (fun (found, ended) => do
    if ended then return none
    if ← keyword? "FOR" then
      match ← resultForm? g with
      | some form => return some (form :: found, true)
      | none => return some ((← lock) :: found, false)
    return none) (([], false) : List Expr × Bool)
  return found.reverse

/-- The form in which the result is written, if the dialect has it. -/
def outputFormat? (g : Grammar) : Parser (List Expr) := do
  if !g.isGeneric then return []
  clauseOf? ["FORMAT"] do
    if ← keyword? "NULL" then return "NULL" else identExpr

/-! ### Queries -/

/-- What orders, cuts and locks the result of a query. -/
def queryRest (g : Grammar) : Parser (List Expr) := do
  let order ← queryOrder? g
  let bounds ← bounds g
  let keys ← clauseAfter? g.isGeneric "BY" do return listed (← g.exprs)
  let settings ← settings? g
  let fetch ← fetch? g
  let locks ← locks g
  return order ++ bounds ++ keys ++ settings ++ fetch ++ locks ++ (← outputFormat? g)

/-- A query. -/
def queryBody (g : Grammar) : Parser Expr := do
  let named ← namedQueries? g
  if ← keyword? "INSERT" then return words (named ++ [← insertion g "INSERT"])
  if ← keyword? "UPDATE" then return words (named ++ [← update g])
  let body ← querySet g
  return words (named ++ [body] ++ (← queryRest g))

end TableGraph.Sql.Parser
