/-
From the text of a script to the graph of its tables.

The tables and the declared constraints give a schema, inference adds relationships to
it, and the figures and the graph are those of the whole.  A text of nothing but blanks
is not analysed.
-/
import TableGraph.Graph.Measure
import TableGraph.Json.Schema
import TableGraph.Schema.Constraints
import TableGraph.Schema.Inference
import TableGraph.Sql.Parser.Statement
import TableGraph.Sql.Script
import TableGraph.Text.Singular

namespace TableGraph

open Text

/-- Why there is no analysis. -/
inductive AnalysisError
  /-- The script is blank. -/
  | missingInput
  | sql (e : Sql.SqlError)
  | internal (text : String)
  /-- The result could not be written. -/
  | unwritable (text : String)
deriving Repr, DecidableEq

namespace AnalysisError

/-- What a script is wrong about. -/
def cause (e : Sql.SqlError) : String := "sql parser error: " ++ e.message

/-- An error in words. -/
def message : AnalysisError → String
  | missingInput => "No SQL source supplied"
  | sql e => "Failed to parse SQL: " ++ cause e
  | internal text => "Internal error: " ++ text
  | unwritable text => "Internal error: failed to serialize schema graph: " ++ text

/-- The error lies in the script. -/
def isInput : AnalysisError → Bool
  | missingInput => true
  | sql _ => true
  | internal _ => false
  | unwritable _ => false

end AnalysisError

/-- The script that a text holds. -/
def readScript (choice : Sql.DialectChoice) (source : String) :
    Except Sql.SqlError (List Script.Statement) :=
  (Sql.parse (choice.resolve source) source).map fun ss => ss.map Sql.Statement.toScript

/-- What is found out about a script. -/
structure Analysis where
  schema : Schema
  graph : Graph
  statistics : Statistics

namespace Analysis

/-- The analysis of a schema to which nothing is added any more. -/
def ofSchema (options : Statistics.Options) (s : Schema) : Analysis where
  schema := s
  graph := .ofSchema s
  statistics := s.statistics options

/-- The analysis of a script; `toSingular` forms the singular of a table's name. -/
def ofScriptWith (toSingular : String → String) (options : Statistics.Options)
    (statements : List Script.Statement) : Analysis :=
  ofSchema options ((Schema.ofScript statements).infer toSingular)

/-- The analysis of a script. -/
def ofScript (options : Statistics.Options) (statements : List Script.Statement) : Analysis :=
  ofScriptWith singular options statements

/-- The analysis of the script that a text holds. -/
def ofText (choice : Sql.DialectChoice) (options : Statistics.Options) (source : String) :
    Except AnalysisError Analysis :=
  if isBlankText source then .error .missingInput
  else
    match readScript choice source with
    | .ok statements => .ok (ofScript options statements)
    | .error e => .error (.sql e)

/-- The analysis with the nodes of its graph placed. -/
def layOut (a : Analysis) (l : Layout.Layered Float) : Analysis :=
  { a with graph := a.graph.layOut l {} }

/-- The tables, the graph and the figures. -/
def toJson (a : Analysis) : Json := .object [
  ("tables", .list Table.toJson a.schema.tables),
  ("nodes", .list Node.toJson a.graph.nodes),
  ("edges", .list Edge.toJson a.graph.edges),
  ("stats", a.statistics.toJson)]

end Analysis

/-- The analysis of a text, placed in the usual way and written compactly, or what is wrong
in words.  Without the name of a dialect it is recognised by the text. -/
def analyzeSchema (source : String) (dialect : Option String) : Except String String := do
  let choice ← match dialect with
    | none => .ok .auto
    | some name =>
      match Sql.DialectChoice.ofName? name with
      | some choice => .ok choice
      | none => .error ("Unknown dialect: " ++ name)
  match Analysis.ofText choice {} source with
  | .ok a => .ok (a.layOut Layout.standard).toJson.compact
  | .error e => .error e.message

end TableGraph
