/-
Relationships inferred from names.

Two rules are tried on every column of every table against the key of every other table.

By the naming rule a column called `user_id`, `userid` or `user` refers to the key of the
table `user`; only when no table is named literally are the singulars of the tables'
names tried, so `user_id` refers to `users` unless there is a table `user`.

By the shared-key rule two tables whose keys have the same name, other than `id`, are
tied to each other.

Both rules see the relationships found before, in this run or earlier, and add none that
is already there.  The keys are those of the tables as they were at the start, and a
table is never matched with itself.
-/
import TableGraph.Schema.KeyIndex

namespace TableGraph

open Text

namespace Inference

/-- A table under way and all relationships known so far. -/
structure Progress where
  table : Table
  relationships : List Relationship
deriving Repr, DecidableEq

/-- What stays the same while one column is looked at. -/
structure Visit where
  /-- The table's name in lower case. -/
  tableKey : String
  /-- The table's own key column. -/
  ownKey : Option String
  /-- The column's position. -/
  position : Nat
  /-- The column's name as declared. -/
  column : String
  /-- The column's name in lower case. -/
  lowered : String
  /-- The column names some other table literally. -/
  literal : Bool
deriving Repr, DecidableEq

/-- The column refers to the table of this entry. -/
def Visit.finds (v : Visit) (e : KeyEntry) : Bool :=
  if v.literal then e.matchesLiterally v.lowered else e.matchesSingular v.lowered

/-- The naming rule: a column that refers to the entry's table is marked, and the
reference is recorded. -/
def Progress.refer (p : Progress) (v : Visit) (e : KeyEntry) : Progress :=
  if v.finds e then
    { table := p.table.markForeignAt v.position
      relationships := Relationship.record p.relationships
        ⟨p.table.name, e.table, .reference v.column e.column⟩ }
  else p

/-- The shared-key rule: tables with keys of one name are tied, unless something ties
them by that column already. -/
def Progress.share (p : Progress) (v : Visit) (e : KeyEntry) : Progress :=
  match v.ownKey with
  | none => p
  | some key =>
    if !sameName key e.column || sameName key genericKey then p
    else if p.relationships.any fun r =>
        r.connects p.table.name e.table && sameName r.sourceColumn key then p
    else
      { table := p.table.markForeign key
        relationships := p.relationships ++ [⟨p.table.name, e.table, .sharedKey key⟩] }

/-- Tries both rules for one column and one entry; a table's own entry is passed over. -/
def Progress.tryEntry (v : Visit) (p : Progress) (e : KeyEntry) : Progress :=
  if e.key == v.tableKey then p else (p.refer v e).share v e

/-- The visit to the column at this position. -/
def visit (index : KeyIndex) (t : Table) (position : Nat) (c : Column) : Visit :=
  let tableKey := lowercase t.name
  let lowered := lowercase c.name
  { tableKey, position, lowered
    ownKey := t.primaryKey?.map (·.name)
    column := c.name
    literal := index.any fun e => e.key != tableKey && e.matchesLiterally lowered }

/-- The visits to the columns of a table, in their order. -/
def visits (index : KeyIndex) (t : Table) : List Visit :=
  t.columns.zipIdx.map fun (c, position) => visit index t position c

/-- Tries all entries for one column. -/
def Progress.tryColumn (index : KeyIndex) (p : Progress) (v : Visit) : Progress :=
  index.foldl (Progress.tryEntry v) p

/-- Tries all columns of a table. -/
def inferTable (index : KeyIndex) (known : List Relationship) (t : Table) : Progress :=
  (visits index t).foldl (Progress.tryColumn index) ⟨t, known⟩

/-- Goes on to the next table. -/
def addTable (index : KeyIndex) (s : Schema) (t : Table) : Schema :=
  let p := inferTable index s.relationships t
  { tables := s.tables ++ [p.table], relationships := p.relationships }

end Inference

/-- The schema with the inferred relationships after the known ones, and the columns they
start from marked. -/
def Schema.infer (toSingular : String → String) (s : Schema) : Schema :=
  s.tables.foldl (Inference.addTable (KeyIndex.ofTables toSingular s.tables))
    { relationships := s.relationships }

/-- How many relationships a run of inference adds. -/
def Schema.inferredCount (toSingular : String → String) (s : Schema) : Nat :=
  (s.infer toSingular).relationships.length - s.relationships.length

end TableGraph
