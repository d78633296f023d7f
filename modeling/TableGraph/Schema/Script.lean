/-
Scripts as the analysis sees them.

A script is a list of statements.  Of a statement that creates a table only the columns
and the constraints matter, each column with the words that modify it; of any other
statement nothing matters.  A foreign key may be declared with a constraint's name or
without one, and the two forms are kept apart.
-/

namespace TableGraph.Script

/-- The name of a table and of the schema it is in, if that is written. -/
structure TableName where
  schema : Option String := none
  name : String
deriving Repr, DecidableEq, Inhabited

/-- A column as declared, with one text for each of its modifiers. -/
structure ColumnDeclaration where
  name : String
  type : String
  modifiers : List String := []
deriving Repr, DecidableEq, Inhabited

/-- A foreign key: columns of the table that declares it, and the columns they refer to. -/
structure ForeignKey where
  name : Option String := none
  columns : List String
  table : TableName
  referred : List String
deriving Repr, DecidableEq, Inhabited

/-- An item in the body of a statement that creates a table. -/
inductive Definition
  | column (declaration : ColumnDeclaration)
  | primaryKey (name : Option String) (columns : List String)
  /-- A foreign key declared as a constraint. -/
  | namedForeignKey (key : ForeignKey)
  /-- A foreign key declared on its own or on a column. -/
  | foreignKey (key : ForeignKey)
  /-- A constraint that says nothing about keys. -/
  | other (name : Option String)
deriving Repr, DecidableEq, Inhabited

/-- A statement of a script. -/
inductive Statement
  | createTable (table : Option TableName) (definitions : List Definition)
  | other
deriving Repr, DecidableEq, Inhabited

/-- The column that the item declares, if it declares one. -/
def Definition.column? : Definition → Option ColumnDeclaration
  | .column declaration => some declaration
  | _ => none

/-- The foreign key that the item declares, if it declares one. -/
def Definition.foreignKey? : Definition → Option ForeignKey
  | .namedForeignKey key => some key
  | .foreignKey key => some key
  | _ => none

end TableGraph.Script
