/-
Applying the declared constraints.

The constraints of each table are applied in the order of declaration.  A primary key
marks the columns it lists; a foreign key marks its first column and is recorded as a
reference, under the names as written, even if no such table or column exists.  A
reference that is already known is not recorded again, whichever table declared it.
-/
import TableGraph.Schema.Draft

namespace TableGraph

open Script

/-- The reference that a foreign key of this table makes: from its first column to the
first column it refers to.  A foreign key without columns makes none. -/
def Script.ForeignKey.reference? (owner : String) (key : ForeignKey) : Option Relationship :=
  match key.columns, key.referred with
  | column :: _, referred :: _ => some ⟨owner, key.table.name, .reference column referred⟩
  | _, _ => none

/-- A table under way and all references known so far. -/
structure Resolution where
  table : Table
  relationships : List Relationship
deriving Repr, DecidableEq

namespace Resolution

/-- Applies a foreign key: its column is marked even if the reference is known. -/
def applyForeignKey (r : Resolution) (key : ForeignKey) : Resolution :=
  match key.reference? r.table.name with
  | some reference =>
    { table := r.table.markForeign reference.sourceColumn
      relationships := Relationship.record r.relationships reference }
  | none => r

/-- Applies one item of a table's body. -/
def apply (r : Resolution) : Definition → Resolution
  | .primaryKey _ columns => { r with table := columns.foldl Table.markPrimary r.table }
  | .namedForeignKey key => r.applyForeignKey key
  | .foreignKey key => r.applyForeignKey key
  | .column _ => r
  | .other _ => r

end Resolution

/-- Applies the constraints of a draft, given the references known before. -/
def Draft.resolve (known : List Relationship) (d : Draft) : Resolution :=
  d.constraints.foldl Resolution.apply ⟨d.table, known⟩

namespace Schema

/-- Adds the table of a draft to a schema. -/
def addDraft (s : Schema) (d : Draft) : Schema :=
  let resolved := d.resolve s.relationships
  { tables := s.tables ++ [resolved.table], relationships := resolved.relationships }

/-- The schema with the tables of the drafts and the references they declare. -/
def ofDrafts (drafts : List Draft) : Schema := drafts.foldl addDraft {}

/-- The schema that a script declares, before anything is inferred. -/
def ofScript (statements : List Statement) : Schema := ofDrafts (Draft.ofScript statements)

end Schema

end TableGraph
