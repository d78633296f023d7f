/-
The graph of a schema.

Every table is a node and every relationship an edge, in their order.  A node's id is the
table's name, so two tables of one name give two nodes of one id; an edge's id begins
with its place in the list, so no two edges share one.  An edge may lead to a table that
does not exist.
-/
import TableGraph.Schema.Ddl

namespace TableGraph

open Text

/-- A point of the plane. -/
structure Position (α : Type) where
  x : α
  y : α
deriving Repr, DecidableEq, Inhabited

/-- A table as a node. -/
structure Node where
  id : String
  /-- The upper left corner: the origin, until the graph is laid out. -/
  position : Position Float := ⟨0.0, 0.0⟩
  label : String
  columns : List Column
  group : String
  /-- The statement that creates the table. -/
  sql : String

/-- A relationship as an edge. -/
structure Edge where
  id : String
  source : String
  target : String
  label : String
  kind : RelationshipKind
deriving Repr, DecidableEq, Inhabited

/-- Nodes and the edges between them. -/
structure Graph where
  nodes : List Node := []
  edges : List Edge := []

/-- The node of a table. -/
def Node.ofTable (t : Table) : Node where
  id := t.name
  label := t.name
  columns := t.columns
  group := t.group
  sql := t.toDdl

/-- What is written at an edge. -/
def Edge.labelOf (r : Relationship) : String :=
  match r.link with
  | .reference column referred => column ++ " -> " ++ referred
  | .sharedKey _ => "Shared PK"

/-- The edge of the relationship at this place. -/
def Edge.ofRelationship (place : Nat) (r : Relationship) : Edge where
  id := "e" ++ toString place ++ "-" ++ r.source ++ "-" ++ r.target
  source := r.source
  target := r.target
  label := Edge.labelOf r
  kind := r.kind

namespace Graph

/-- The graph of a schema. -/
def ofSchema (s : Schema) : Graph where
  nodes := s.tables.map Node.ofTable
  edges := s.relationships.mapIdx Edge.ofRelationship

/-- The first node of this id. -/
def node? (g : Graph) (id : String) : Option Node := g.nodes.find? fun n => sameName n.id id

/-- The node that is found for an id is one of the nodes. -/
theorem mem_of_node?_eq_some {g : Graph} {id : String} {n : Node} (h : g.node? id = some n) :
    n ∈ g.nodes :=
  List.mem_of_find?_eq_some h

/-- The node that is found for an id has it, in some case. -/
theorem sameName_of_node?_eq_some {g : Graph} {id : String} {n : Node}
    (h : g.node? id = some n) : sameName n.id id := by
  rw [node?] at h
  simpa using List.find?_some h

/-- An id that some node has finds a node. -/
theorem exists_node?_of_mem {g : Graph} {n : Node} {id : String} (hn : n ∈ g.nodes)
    (hid : sameName n.id id) : ∃ m, g.node? id = some m := by
  rw [← Option.isSome_iff_exists, node?, List.find?_isSome]
  exact ⟨n, hn, hid⟩

end Graph

end TableGraph
