/-
Reading documents whose parts are the rows of a table.

Such a source says which columns its rows have and where in the document each of them is
found.  Columns may be inside a part of the document, which has columns of its own.
-/
import TableGraph.Sql.Parser.Source

namespace TableGraph.Sql.Parser

open TableGraph.Sql.Expr

/-! ### Columns -/

/-- What is done where a document has no value. -/
def absenceRule? (d : Dialect) : Parser (Option Expr) := do
  let rule ← match ← keywordOf? ["NULL", "ERROR", "DEFAULT"] with
    | some "DEFAULT" => some <$> (return words ["DEFAULT", ← value d])
    | some word => pure (some (verbatim word))
    | none => pure none
  if rule.isSome then keyword "ON"
  return rule

/-- What is done with a value that is not there, and with one that is not right; of several
rules for the same case the last counts. -/
def absenceRules (d : Dialect) : Parser (List Expr) := do
  let (empty, error) ← loop (fun (empty, error) => do
    match ← absenceRule? d with
    | none => return none
    | some rule =>
      if ← keyword? "EMPTY" then return some (some rule, error)
      keyword "ERROR"
      return some (empty, some rule)) ((none, none) : Option Expr × Option Expr)
  return (empty.toList.map fun e => words [e, "ON EMPTY"])
    ++ error.toList.map fun e => words [e, "ON ERROR"]

/-- A column that is taken from a document; there are no more columns inside each other than
tokens in `left`. -/
def documentColumn (g : Grammar) (left : List Lexeme) : Parser Expr := do
  let inner := match left with
    | [] => reject "identifier"
    | _ :: left => documentColumn g left
  if ← keyword? "NESTED" then
    let _ ← keyword? "PATH"
    let path ← value g.dialect
    keyword "COLUMNS"
    let columns ← parenthesized (commaSeparated inner)
    return words ["NESTED PATH", path, called "COLUMNS " (listed columns)]
  let name ← ident
  if ← keyword? "FOR" then
    keyword "ORDINALITY"
    return words [.path [name], "FOR ORDINALITY"]
  let type ← dataType g
  let present := (← phraseOf? [["EXISTS"]]).toList.map verbatim
  keyword "PATH"
  let path ← value g.dialect
  return words ([.path [name], .type type] ++ present ++ [verbatim "PATH", path]
    ++ (← absenceRules g.dialect))

/-! ### Documents -/

/-- The rows of a document, after the word and the parenthesis that opens them. -/
def documentTable (g : Grammar) : Parser Source := do
  let document ← g.whole
  symbol ","
  let path ← value g.dialect
  keyword "COLUMNS"
  let columns ← parenthesized do commaSeparated (documentColumn g (← get))
  symbol ")"
  let taken := words [path, called "COLUMNS" (listed columns)]
  Source.aliased g (called "JSON_TABLE" (listed [document, taken]))

/-- A column of an opened document. -/
def openedColumn (g : Grammar) : Parser Expr := do
  let name ← ident
  let type ← dataType g
  let path ← match ← next? with
    | some (.text .single s) => skip; pure [text .single s]
    | _ => pure []
  let document ← if ← keyword? "AS" then
      keyword "JSON"
      pure [verbatim "AS JSON"]
    else pure []
  return words ([.path [name], .type type] ++ path ++ document)

/-- An opened document, after the word and the parenthesis that opens it. -/
def openedDocument (g : Grammar) : Parser Source := do
  let document ← g.whole
  let path ← if ← symbol? "," then pure [← value g.dialect] else pure []
  symbol ")"
  let columns ← if ← keyword? "WITH" then parenthesized (commaSeparated (openedColumn g))
    else pure []
  let opened := called "OPENJSON" (listed (document :: path))
  Source.aliased g (words (opened ::
    (if columns.isEmpty then [] else [called "WITH " (listed columns)])))

end TableGraph.Sql.Parser
