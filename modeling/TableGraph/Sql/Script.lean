/-
From the statements of SQL to the script that is analysed.

A statement that creates a table keeps its columns, with the text of each option as a
modifier, and its constraints, which come after all columns.  A reference on a column
becomes a foreign key right after the column, so that the column is known when the key
is applied.  A reference that names no column is to the column `id`.
-/
import TableGraph.Schema.Script
import TableGraph.Sql.CreateTable

namespace TableGraph.Sql

open Script

/-- The column that is referred to where none is named. -/
def impliedColumn : String := "id"

/-- A table's name, and the schema it is in. -/
def ObjectName.toTableName (n : ObjectName) : TableName where
  schema := n.schema?.map (·.text)
  name := n.base.text

/-- The modifier that an option becomes.  A primary key is one whatever is said about its
timing. -/
def ColumnOption.toModifier : ColumnOption → String
  | primaryKey _ => "PRIMARY KEY"
  | option => option.render

namespace ColumnDef

/-- The column as the analysis sees it. -/
def toDeclaration (c : ColumnDef) : ColumnDeclaration where
  name := c.name.text
  type := c.type.render
  modifiers := c.options.map (·.option.toModifier)

/-- The foreign key that an option of the column declares, if it is a reference. -/
def foreignKey? (c : ColumnDef) (o : NamedOption) : Option ForeignKey :=
  match o.option with
  | .references r => some {
      name := o.name.map (·.text)
      columns := [c.name.text]
      table := r.table.toTableName
      referred := [(r.columns.head?.map (·.text)).getD impliedColumn] }
  | _ => none

/-- The column and its foreign keys. -/
def toDefinitions (c : ColumnDef) : List Definition :=
  .column c.toDeclaration :: (c.options.filterMap c.foreignKey?).map .foreignKey

end ColumnDef

namespace TableConstraint

/-- The foreign key of a constraint. -/
def toForeignKey (name : Option Ident) (columns : List Ident) (r : Reference) : ForeignKey where
  name := name.map (·.text)
  columns := columns.map (·.text)
  table := r.table.toTableName
  referred := if r.columns.isEmpty then [impliedColumn] else r.columns.map (·.text)

/-- The constraint as the analysis sees it. -/
def toDefinition : TableConstraint → Definition
  | primaryKey name columns => .primaryKey (name.map (·.text)) (columns.map (·.text))
  | foreignKey (some name) columns r => .namedForeignKey (toForeignKey (some name) columns r)
  | foreignKey none columns r => .foreignKey (toForeignKey none columns r)
  | unique name _ => .other (name.map (·.text))
  | check name _ => .other (name.map (·.text))
  | index _ _ => .other none

end TableConstraint

/-- The items of a statement: its columns, then its constraints. -/
def CreateTable.toDefinitions (c : CreateTable) : List Definition :=
  c.columns.flatMap ColumnDef.toDefinitions ++ c.constraints.map TableConstraint.toDefinition

/-- The statement as the analysis sees it. -/
def Statement.toScript : Statement → Script.Statement
  | createTable c => .createTable (some c.name.toTableName) c.toDefinitions
  | plan | other => .other

end TableGraph.Sql
