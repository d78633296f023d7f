/-
Names in SQL.

An identifier keeps the quotes it was written in, since it is written in them again; a
text in single quotes may stand for a name as well.  The name of an object is identifiers
joined by points, of which the last one names the object itself.
-/
import TableGraph.Sql.Quote

namespace TableGraph.Sql

/-- An identifier: what it names, and the character that opens its quotes if it has any. -/
structure Ident where
  text : String
  quote : Option Char := none
deriving Repr, DecidableEq, Inhabited

/-- The identifier in its quotes. -/
def Ident.render (i : Ident) : String :=
  match i.quote with
  | none => i.text
  | some '[' => "[" ++ i.text ++ "]"
  | some q => quoted q i.text

/-- Identifiers with a comma between them. -/
def renderIdents (is : List Ident) : String := ", ".intercalate (is.map Ident.render)

/-- The name of an object, inside whatever the qualifiers name. -/
structure ObjectName where
  qualifiers : List Ident := []
  base : Ident
deriving Repr, DecidableEq, Inhabited

namespace ObjectName

/-- The name with its qualifiers. -/
def render (n : ObjectName) : String :=
  ".".intercalate ((n.qualifiers ++ [n.base]).map Ident.render)

/-- The innermost qualifier, which names the schema of a table. -/
def schema? (n : ObjectName) : Option Ident := n.qualifiers.getLast?

end ObjectName

end TableGraph.Sql
