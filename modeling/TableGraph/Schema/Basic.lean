/-
Tables, their columns, and the relationships between them.

A relationship is either a reference, in which a column of the source table points at a
column of the target table, or a shared key, in which both tables are keyed by a column
of one name.  A shared key has one column name, so it cannot have two different ones.

Names of tables and columns are compared with `sameName` throughout.  A table may hold
two columns of the same name; looking a name up finds the first.
-/
import TableGraph.Text.Case

namespace TableGraph

open Text

/-- A column of a table. -/
structure Column where
  /-- The name as declared. -/
  name : String
  /-- The text of its type. -/
  type : String
  /-- The column belongs to the primary key. -/
  isPrimary : Bool := false
  /-- The column refers to a column of a table. -/
  isForeign : Bool := false
deriving Repr, DecidableEq, Inhabited

/-- A table with its columns in the order of declaration. -/
structure Table where
  name : String
  columns : List Column := []
deriving Repr, DecidableEq, Inhabited

/-- What ties two tables together. -/
inductive Link
  /-- The source's `column` points at the target's column `referred`. -/
  | reference (column referred : String)
  /-- Both tables have `column` as their key. -/
  | sharedKey (column : String)
deriving Repr, DecidableEq, Inhabited

/-- The two kinds of relationships. -/
inductive RelationshipKind
  | reference
  | sharedKey
deriving Repr, DecidableEq, Inhabited

/-- The word for a kind of relationship. -/
def RelationshipKind.name : RelationshipKind → String
  | .reference => "standard"
  | .sharedKey => "shared-primary-key"

/-- A directed tie between two tables, which need not exist. -/
structure Relationship where
  source : String
  target : String
  link : Link
deriving Repr, DecidableEq, Inhabited

/-- The tables of a script and the relationships between them. -/
structure Schema where
  tables : List Table := []
  relationships : List Relationship := []
deriving Repr, DecidableEq, Inhabited

/-! ### Tables -/

namespace Table

/-- The position of the first column of this name. -/
def columnIndex? (t : Table) (name : String) : Option Nat :=
  t.columns.findIdx? fun c => sameName c.name name

/-- The first column of the primary key, in the order of declaration. -/
def primaryKey? (t : Table) : Option Column := t.columns.find? (·.isPrimary)

/-- The table has a primary key. -/
def hasPrimaryKey (t : Table) : Bool := t.primaryKey?.isSome

/-- The table goes by this name. -/
def isNamed (t : Table) (name : String) : Bool := sameName t.name name

/-- The group of a table is what stands before the first underscore of its name. -/
def group (t : Table) : String :=
  if t.name.toList.contains '_' then String.ofList (t.name.toList.takeWhile (· != '_'))
  else "other"

/-- Marks the column at this position as part of the primary key. -/
def markPrimaryAt (t : Table) (i : Nat) : Table :=
  { t with columns := t.columns.modify i fun c => { c with isPrimary := true } }

/-- Marks the column at this position as a foreign key. -/
def markForeignAt (t : Table) (i : Nat) : Table :=
  { t with columns := t.columns.modify i fun c => { c with isForeign := true } }

/-- Marks the first column of this name as part of the primary key; a name that no column
has marks nothing. -/
def markPrimary (t : Table) (name : String) : Table :=
  match t.columnIndex? name with
  | some i => t.markPrimaryAt i
  | none => t

/-- Marks the first column of this name as a foreign key; a name that no column has marks
nothing. -/
def markForeign (t : Table) (name : String) : Table :=
  match t.columnIndex? name with
  | some i => t.markForeignAt i
  | none => t

/-- Adds a column after the others. -/
def addColumn (t : Table) (c : Column) : Table := { t with columns := t.columns ++ [c] }

end Table

/-! ### Relationships -/

namespace Relationship

/-- The column of the source table. -/
def sourceColumn (r : Relationship) : String :=
  match r.link with
  | .reference column _ => column
  | .sharedKey column => column

/-- The column of the target table. -/
def targetColumn (r : Relationship) : String :=
  match r.link with
  | .reference _ referred => referred
  | .sharedKey column => column

/-- The kind of the relationship. -/
def kind (r : Relationship) : RelationshipKind :=
  match r.link with
  | .reference _ _ => .reference
  | .sharedKey _ => .sharedKey

/-- The relationship is a reference. -/
def isReference (r : Relationship) : Bool := r.kind == .reference

/-- The relationship is a reference from this column of this table to a column named
`referred`, whatever the target table. -/
def sameReference (r : Relationship) (source column referred : String) : Bool :=
  r.isReference && sameName r.source source && sameName r.sourceColumn column
    && sameName r.targetColumn referred

/-- The table is at one of the two ends. -/
def touches (r : Relationship) (table : String) : Bool :=
  sameName r.source table || sameName r.target table

/-- The relationship goes from the one table to the other or back. -/
def connects (r : Relationship) (a b : String) : Bool :=
  (sameName r.source a && sameName r.target b) || (sameName r.source b && sameName r.target a)

/-- Adds a reference to those known, unless one with the same source and the same name of
the referred column is among them. -/
def record (known : List Relationship) (r : Relationship) : List Relationship :=
  if known.any (·.sameReference r.source r.sourceColumn r.targetColumn) then known
  else known ++ [r]

theorem connects_comm (r : Relationship) (a b : String) : r.connects a b = r.connects b a := by
  simp [connects, Bool.or_comm]

end Relationship

end TableGraph
