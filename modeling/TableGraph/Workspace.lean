/-
A schema under way, with the graph that was last made of it.

The schema is edited step by step.  The graph is made anew only when that is asked for or
when a script is read, so between times it may be older than the schema.
-/
import TableGraph.Analysis
import TableGraph.Graph.Query

namespace TableGraph

/-- A schema under way and a graph. -/
structure Workspace where
  schema : Schema := {}
  graph : Graph := {}

namespace Workspace

/-- The workspace of a schema, with its graph. -/
def ofSchema (s : Schema) : Workspace := ⟨s, .ofSchema s⟩

/-- Reads a script in place of what is there. -/
def loadText (choice : Sql.DialectChoice) (source : String) : Except AnalysisError Workspace := do
  let a ← Analysis.ofText choice {} source
  return ⟨a.schema, a.graph⟩

/-- Puts what a script declares in place of the schema; the graph stays. -/
def load (w : Workspace) (statements : List Script.Statement) : Workspace :=
  { w with schema := .ofScript statements }

/-- Adds a table after the others. -/
def addTable (w : Workspace) (t : Table) : Workspace :=
  { w with schema := { w.schema with tables := w.schema.tables ++ [t] } }

/-- Adds a relationship after the others. -/
def addRelationship (w : Workspace) (r : Relationship) : Workspace :=
  { w with schema := { w.schema with relationships := w.schema.relationships ++ [r] } }

/-- The table at this position. -/
def table? (w : Workspace) (i : Nat) : Option Table := w.schema.tables[i]?

/-- Puts a table in place of the one at this position. -/
def setTable (w : Workspace) (i : Nat) (t : Table) : Workspace :=
  { w with schema := { w.schema with tables := w.schema.tables.set i t } }

/-- Adds what can be inferred. -/
def infer (w : Workspace) : Workspace := { w with schema := w.schema.infer Text.singular }

/-- Makes the graph anew. -/
def assemble (w : Workspace) : Workspace := .ofSchema w.schema

/-- Places the nodes of the graph. -/
def layOut (w : Workspace) (l : Layout.Layered Float) (m : TextMetrics) : Workspace :=
  { w with graph := w.graph.layOut l m }

end Workspace

end TableGraph
