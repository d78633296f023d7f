/-
Tables written back as statements that create them.

The text is canonical: two spaces before each column, the primary key as a modifier of
every column that belongs to it, and a remark on every column that refers to a table.
-/
import TableGraph.Schema.Basic

namespace TableGraph

/-- The line of a column. -/
def Column.toDdl (c : Column) : String :=
  "  " ++ c.name ++ " " ++ c.type ++ (if c.isPrimary then " PRIMARY KEY" else "")
    ++ (if c.isForeign then " /* FK */" else "")

/-- The statement that creates the table. -/
def Table.toDdl (t : Table) : String :=
  "CREATE TABLE " ++ t.name ++ " (\n" ++ String.intercalate ",\n" (t.columns.map Column.toDdl)
    ++ "\n);"

/-- The statements that create the tables, with blank lines between them. -/
def ddlScript (tables : List Table) : String :=
  String.intercalate "\n" (tables.map fun t => t.toDdl ++ "\n")

end TableGraph
