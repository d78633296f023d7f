/-
Tables as declared, before their constraints are applied.

A draft holds a table with the columns of its statement and the constraints of that
statement, in their order.  A column is part of the primary key at once if one of its
modifiers says so; everything else waits for `Schema.ofDrafts`.
-/
import TableGraph.Text.Blank
import TableGraph.Schema.Basic
import TableGraph.Schema.Script

namespace TableGraph

open Text Script

/-- A table and the constraints that are still to be applied to it. -/
structure Draft where
  table : Table
  constraints : List Definition
deriving Repr, DecidableEq, Inhabited

/-- The modifier makes its column a primary key. -/
def marksPrimaryKey (modifier : String) : Bool := sameName (trim modifier) "primary key"

namespace Draft

/-- The column that a declaration declares. -/
def columnOf (declaration : ColumnDeclaration) : Column where
  name := declaration.name
  type := declaration.type
  isPrimary := declaration.modifiers.any marksPrimaryKey
  isForeign := false

/-- The draft of a table with these items in its body. -/
def ofDefinitions (table : TableName) (definitions : List Definition) : Draft where
  table := ⟨table.name, (definitions.filterMap Definition.column?).map columnOf⟩
  constraints := definitions.filter (·.column?.isNone)

/-- The draft that a statement gives: none unless it creates a table that has a name. -/
def ofStatement? : Statement → Option Draft
  | .createTable (some table) definitions => some (ofDefinitions table definitions)
  | _ => none

/-- One draft for each statement that creates a table, in the order of the script. -/
def ofScript (statements : List Statement) : List Draft := statements.filterMap ofStatement?

end Draft

end TableGraph
