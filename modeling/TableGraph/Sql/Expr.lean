/-
Expressions and queries, and how they are written.

An expression is read only to be written again with even spacing.  So its tree keeps what
the reading of it depends on - names, stars, subqueries - and the spelling of all else, and
says nothing about values.  What is made of words and of other expressions is a phrase: its
parts, with the same separator between any two of them.
-/
import TableGraph.Sql.DataType
import TableGraph.Sql.Token

namespace TableGraph.Sql

/-- An expression, a query, or a part of one. -/
inductive Expr
  /-- Words, a number, a mark or a place to be filled in, as they stand. -/
  | verbatim (s : String)
  | text (kind : TextKind) (value : String)
  /-- A name, with what it is in before it. -/
  | path (parts : List Ident)
  /-- Every column, of a table or of all. -/
  | star (qualifiers : List Ident)
  | type (type : DataType)
  | parentheses (es : List Expr)
  /-- A query in parentheses. -/
  | subquery (query : Expr)
  /-- An operator before its operand; one in symbols stands close to it. -/
  | unary (operator : String) (close : Bool) (e : Expr)
  | binary (left : Expr) (operator : String) (right : Expr)
  | phrase (separator : String) (parts : List Expr)
deriving Repr, Inhabited

/-- A text in its quotes, with its own quotes marked where its form asks for it. -/
def renderText (kind : TextKind) (value : String) : String :=
  match kind with
  | .single => singleQuoted value
  | .double => quoted '"' value
  | .escaped => kind.opening ++ markEscapes value ++ kind.closing
  | .unicode => kind.opening ++ markUnicode value ++ kind.closing
  | _ => kind.opening ++ value ++ kind.closing

namespace Expr

mutual

/-- An expression as it is written. -/
def render : Expr → String
  | verbatim s => s
  | text kind value => renderText kind value
  | path parts => ".".intercalate (parts.map Ident.render)
  | star qualifiers => ".".intercalate (qualifiers.map Ident.render ++ ["*"])
  | type t => t.render
  | parentheses es => "(" ++ renderParts ", " es ++ ")"
  | subquery query => "(" ++ query.render ++ ")"
  | unary operator close e => operator ++ (if close then "" else " ") ++ e.render
  | binary left operator right => left.render ++ " " ++ operator ++ " " ++ right.render
  | phrase separator parts => renderParts separator parts

/-- Expressions with a separator between them. -/
def renderParts (separator : String) : List Expr → String
  | [] => ""
  | [e] => e.render
  | e :: es => e.render ++ separator ++ renderParts separator es

end

instance : Coe String Expr := ⟨verbatim⟩

/-- Parts with blanks between them. -/
def words (parts : List Expr) : Expr := phrase " " parts

/-- Parts with nothing between them. -/
def joined (parts : List Expr) : Expr := phrase "" parts

/-- Parts with commas between them. -/
def listed (parts : List Expr) : Expr := phrase ", " parts

/-- A word and what it is called with. -/
def called (word : String) (e : Expr) : Expr := joined [word, "(", e, ")"]

/-- The name of an object. -/
def ofName (name : ObjectName) : Expr := path (name.qualifiers ++ [name.base])

/-- Identifiers with commas between them. -/
def ofIdents (is : List Ident) : Expr := listed (is.map fun i => path [i])

/-- A word before a list, or nothing if the list is empty. -/
def clause (word : String) (es : List Expr) : List Expr :=
  if es.isEmpty then [] else [words [word, listed es]]

/-- Words before an expression, or nothing if there is none. -/
def preceded (word : String) (e : Option Expr) : List Expr :=
  e.toList.map fun e => words [word, e]

end Expr

end TableGraph.Sql
