/-
Figures about a schema, and remarks on tables that look unhealthy.

The most connected tables come first with ties in the order of the tables, so a smaller
limit gives the beginning of the list that a larger limit gives.
-/
import TableGraph.Schema.Basic

namespace TableGraph

namespace Statistics

/-- What the figures depend on besides the schema. -/
structure Options where
  /-- How many of the most connected tables are listed. -/
  topConnected : Nat := 5
  /-- A table with more columns than this is wide. -/
  wideColumns : Nat := 20
deriving Repr, DecidableEq, Inhabited

/-- How many relationships touch a table. -/
structure Connections where
  table : String
  count : Nat
deriving Repr, DecidableEq, Inhabited

/-- How many tables a group has. -/
structure GroupCount where
  group : String
  count : Nat
deriving Repr, DecidableEq, Inhabited

/-- Something about a table that its owner may want to change. -/
inductive Issue
  | noPrimaryKey (table : String)
  /-- The table has more columns than `limit`. -/
  | wide (table : String) (limit : Nat)
deriving Repr, DecidableEq, Inhabited

/-- How grave an issue is. -/
def Issue.severity : Issue → String
  | .noPrimaryKey _ => "warning"
  | .wide _ _ => "info"

/-- An issue in words. -/
def Issue.message : Issue → String
  | .noPrimaryKey table => "Table \"" ++ table ++ "\" has no Primary Key."
  | .wide table limit => "Table \"" ++ table ++ "\" has over " ++ toString limit ++ " columns."

/-- The mean number of columns to one decimal place, with a half rounded away from zero;
no tables have a mean of zero. -/
def average (columns tables : Nat) : Float :=
  if tables = 0 then 0.0
  else (Float.ofNat columns / Float.ofNat tables * 10.0).round / 10.0

/-- How many relationships touch the table. -/
def connections (relationships : List Relationship) (t : Table) : Connections :=
  ⟨t.name, relationships.countP (·.touches t.name)⟩

/-- Counts one more table of a group, which goes to the end when it is new. -/
def countGroup (groups : List GroupCount) (group : String) : List GroupCount :=
  match groups.findIdx? (·.group == group) with
  | some i => groups.modify i fun g => { g with count := g.count + 1 }
  | none => groups ++ [⟨group, 1⟩]

/-- The groups in the order in which they first appear. -/
def groupCounts (tables : List Table) : List GroupCount :=
  tables.foldl (fun groups t => countGroup groups t.group) []

/-- The issues of one table. -/
def issuesOf (wideColumns : Nat) (t : Table) : List Issue :=
  (if t.hasPrimaryKey then [] else [.noPrimaryKey t.name])
    ++ (if wideColumns < t.columns.length then [.wide t.name wideColumns] else [])

end Statistics

open Statistics

/-- The tables that most relationships touch, at most `limit` of them. -/
def Schema.mostConnected (s : Schema) (limit : Nat) : List Connections :=
  ((s.tables.map (connections s.relationships)).mergeSort
    fun a b => decide (b.count ≤ a.count)).take limit

/-- The figures about a schema. -/
structure Statistics where
  tableCount : Nat
  columnCount : Nat
  relationshipCount : Nat
  averageColumns : Float
  mostConnected : List Connections
  groups : List GroupCount
  issues : List Issue

/-- The figures about this schema. -/
def Schema.statistics (s : Schema) (options : Statistics.Options) : Statistics :=
  let columns := s.tables.foldl (fun count t => count + t.columns.length) 0
  { tableCount := s.tables.length
    columnCount := columns
    relationshipCount := s.relationships.length
    averageColumns := average columns s.tables.length
    mostConnected := s.mostConnected options.topConnected
    groups := groupCounts s.tables
    issues := s.tables.flatMap (issuesOf options.wideColumns) }

end TableGraph
