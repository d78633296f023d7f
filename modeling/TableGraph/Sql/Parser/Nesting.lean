/-
The grammar in which expressions, queries and columns are inside each other.

What is inside is read by the grammar of the next depth, and at the last depth nothing can
be inside.  What follows the type of a column takes no depth of its own.
-/
import TableGraph.Sql.Parser.Column

namespace TableGraph.Sql.Parser

/-- The grammar of a dialect that allows so many depths; `related` says that rows are related
to the rows above them. -/
def level (d : Dialect) (related : Bool) : Nat → Grammar
  | 0 => {
    dialect := d
    expr := fun _ => throw .tooDeep
    query := throw .tooDeep
    relation := throw .tooDeep
    columnTail := throw .tooDeep }
  | depth + 1 =>
    let inner := level d related depth
    let grammar : Grammar := {
      dialect := d
      related
      expr := exprAbove inner
      query := queryBody inner
      relation := fun tokens => exprAbove (level d true depth) 0 tokens
      columnTail := throw .tooDeep }
    { grammar with columnTail := do return (← columnTail grammar).toExpr }

/-- The grammar inside a statement that has so many depths left. -/
def grammar (d : Dialect) (depth : Nat) : Grammar := level d false depth

end TableGraph.Sql.Parser
