/-
Looking things up in a graph.

A search compares in lower case, and an empty term is part of every name.  The neighbours
of a node are the node itself and those that share an edge with it, in either direction.
-/
import TableGraph.Text.Find
import TableGraph.Text.Lowercase
import TableGraph.Graph.Basic

namespace TableGraph

open Text

/-- The name contains the term, which is in lower case. -/
def nameContains (term name : String) : Bool := contains (lowercase name) term

/-- The node's label or the name of one of its columns contains the term, which is in lower
case. -/
def Node.mentions (term : String) (n : Node) : Bool :=
  nameContains term n.label || n.columns.any fun c => nameContains term c.name

/-- The edge leads from the one node to the other or back. -/
def Edge.links (e : Edge) (a b : String) : Bool :=
  (sameName e.source a && sameName e.target b) || (sameName e.target a && sameName e.source b)

namespace Graph

/-- The nodes that mention the term, in their order. -/
def search (g : Graph) (term : String) : List Node := g.nodes.filter (Node.mentions (lowercase term))

/-- Some edge ties the two nodes. -/
def linked (g : Graph) (a b : String) : Bool := g.edges.any (·.links a b)

/-- The first node of this id and the other nodes that are linked to it, in their order;
nothing if there is no such node. -/
def neighbors (g : Graph) (id : String) : List Node :=
  match g.node? id with
  | none => []
  | some selected =>
    selected :: g.nodes.filter fun n => !sameName n.id id && g.linked id n.id

end Graph

end TableGraph
