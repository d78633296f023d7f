/-
Laying a graph out again.

A layout writes positions and reads everything else: the names, the columns and the edges.  So
two things are to be seen, and both are said with the graph in which no node is placed.  Laying
out does not change that graph, and it does the same to it as to the graph it is taken from.
From these two it follows that the positions a graph had before leave no trace.

Positions are written to the nodes one by one as long as there are both, so a node would keep
the position it had if there were too few of them.  There are as many as nodes.
-/
import TableGraph.Graph.Measure
import TableGraph.Proofs.Layout.Places

namespace TableGraph

open Layout

/-- The node with the position it has before it is laid out. -/
def Node.unplaced (n : Node) : Node := { n with position := ⟨0.0, 0.0⟩ }

namespace Graph

/-- The graph with no node laid out. -/
def unplaced (g : Graph) : Graph := { g with nodes := g.nodes.map Node.unplaced }

variable (g : Graph) (l l' : Layered Float) (m m' : TextMetrics)

/-- The nodes as they are placed. -/
def boxes : List (Box Float) := g.nodes.map m.box

/-- The edges as they are followed. -/
def arrows : List Arrow := g.edges.map fun e => ⟨e.source, e.target⟩

/-! ### Positions are written -/

theorem length_place_boxes : (l.place (g.boxes m) g.arrows).length = g.nodes.length := by
  rw [Layered.length_place, boxes, List.length_map]

theorem nodes_layOut : (g.layOut l m).nodes
    = (g.nodes.zip (l.place (g.boxes m) g.arrows)).map fun entry =>
        { entry.1 with position := entry.2 } := rfl

/-- A node keeps everything but its position, which is the one found for its place. -/
theorem getElem?_layOut {i : Nat} {n : Node} {p : Position Float} (hn : g.nodes[i]? = some n)
    (hp : (l.place (g.boxes m) g.arrows)[i]? = some p) :
    (g.layOut l m).nodes[i]? = some { n with position := p } := by
  have hentry : (g.nodes.zip (l.place (g.boxes m) g.arrows))[i]? = some (n, p) :=
    List.getElem?_zip_eq_some.mpr ⟨hn, hp⟩
  rw [nodes_layOut, List.getElem?_map, hentry]
  rfl

theorem unplaced_layOut : (g.layOut l m).unplaced = g.unplaced := by
  have hnodes : (g.layOut l m).nodes.map Node.unplaced = g.nodes.map Node.unplaced := by
    calc (g.layOut l m).nodes.map Node.unplaced
        = ((g.nodes.zip (l.place (g.boxes m) g.arrows)).map (·.1)).map Node.unplaced := by
          rw [nodes_layOut, List.map_map, List.map_map]
          rfl
      _ = g.nodes.map Node.unplaced := by
          rw [List.map_fst_zip (g.length_place_boxes l m).ge]
  rw [unplaced, hnodes]
  rfl

/-! ### Positions are not read -/

theorem boxes_unplaced : g.unplaced.boxes m = g.boxes m := by
  rw [boxes, unplaced, List.map_map]
  rfl

theorem layOut_unplaced : g.unplaced.layOut l m = g.layOut l m := by
  have hnodes : (g.unplaced.layOut l m).nodes = (g.layOut l m).nodes := by
    rw [nodes_layOut, nodes_layOut, boxes_unplaced]
    show ((g.nodes.map Node.unplaced).zip (l.place (g.boxes m) g.arrows)).map _ = _
    rw [List.zip_map_left, List.map_map]
    rfl
  show ({ nodes := (g.unplaced.layOut l m).nodes, edges := g.edges } : Graph) = _
  rw [hnodes]
  rfl

/-- What the positions were before does not matter. -/
theorem layOut_congr {g g' : Graph} (h : g'.unplaced = g.unplaced) :
    g'.layOut l m = g.layOut l m := by
  rw [← layOut_unplaced, h, layOut_unplaced]

theorem layOut_layOut : (g.layOut l' m').layOut l m = g.layOut l m :=
  layOut_congr l m (g.unplaced_layOut l' m')

end Graph

/--
**Laying a graph out changes positions only, and all of them.**  The edges stay, and there are as
many nodes as before.  Every node has a rank, which is that of a layer, and a place; in the graph
laid out it stands where it stood, with this place as its position and as it was in everything
else.  The positions do not depend on those before.  So a layout gives the same after another one
as without it, and nothing more if it is repeated.
-/
theorem layOut_positionsOnly (g : Graph) (l : Layered Float) (m : TextMetrics) :
    let boxes := g.nodes.map m.box
    let arrows : List Arrow := g.edges.map fun e => ⟨e.source, e.target⟩
    let ranks := assignRanks (boxes.map (·.id)) arrows
    (g.layOut l m).edges = g.edges ∧
      (g.layOut l m).nodes.length = g.nodes.length ∧
      (∀ (i : Nat) n, g.nodes[i]? = some n → ∃ rank p,
        (ranks[i]? = some rank ∧ rank < (l.extents (boxes.zip ranks)).length) ∧
          (l.place boxes arrows)[i]? = some p ∧
          (g.layOut l m).nodes[i]? = some { n with position := p }) ∧
      (∀ g' : Graph, g'.unplaced = g.unplaced → g'.layOut l m = g.layOut l m) ∧
      (∀ l' m', (g.layOut l' m').layOut l m = g.layOut l m) ∧
      (g.layOut l m).layOut l m = g.layOut l m := by
  intro boxes arrows ranks
  refine ⟨rfl, ?_, fun i n hn => ?_, fun g' h => Graph.layOut_congr l m h,
    fun l' m' => g.layOut_layOut l l' m m', g.layOut_layOut l l m m⟩
  · rw [Graph.nodes_layOut, List.length_map, List.length_zip, g.length_place_boxes l m, min_self]
  · have hi : i < g.nodes.length := (List.getElem?_eq_some_iff.mp hn).1
    have hrank : i < ranks.length := by
      rwa [Layered.length_ranks, List.length_map]
    have hplace : i < (l.place boxes arrows).length := by
      rwa [Layered.length_place, List.length_map]
    exact ⟨ranks[i], _, ⟨List.getElem?_eq_getElem hrank,
      l.lt_length_extents (List.getElem_mem hrank)⟩, List.getElem?_eq_getElem hplace,
      g.getElem?_layOut l m hn (List.getElem?_eq_getElem hplace)⟩

/-- Two nodes of one id of which the second is in a cycle, an edge without a target, and a node
that has been placed before. -/
theorem layOut_positionsOnly_cycle :
    let node : String → Position Float → Node := fun name position =>
      { id := name, position, label := name, columns := [], group := "other", sql := "" }
    let edge : String → String → Edge := fun source target =>
      { id := "e", source, target, label := "Shared PK", kind := .sharedKey }
    let edges := [edge "a" "b", edge "B" "a", edge "b" "gone", edge "a" "A"]
    let orders := node "b" ⟨7.0, 0.5⟩
    let g : Graph := { nodes := [node "a" ⟨0.0, 0.0⟩, node "A" ⟨0.0, 0.0⟩, orders], edges }
    let g' : Graph := { nodes := [node "a" ⟨3.0, 1.0⟩, node "A" ⟨2.0, 9.0⟩, orders], edges }
    let l : Layered Float := ⟨.topBottom, 10.0, 5.0, 1.0⟩
    (g.nodes[2]? = some orders ∧
        (g.layOut l {}).nodes[2]? = some { orders with position := ⟨231.0, 156.0⟩ }) ∧
      g'.unplaced = g.unplaced ∧ g'.layOut l {} = g.layOut l {} := by
  intro node edge edges orders g g' l
  have horders : g.nodes[2]? = some orders := rfl
  have hunplaced : g'.unplaced = g.unplaced := rfl
  obtain ⟨-, -, hplaced, hpositions, -⟩ := layOut_positionsOnly g l {}
  obtain ⟨rank, p, -, hp, hnode⟩ := hplaced 2 orders horders
  have hcorner : (l.place (g.boxes {}) g.arrows)[2]? = some ⟨231.0, 156.0⟩ := by
    decide +kernel
  obtain rfl : p = ⟨231.0, 156.0⟩ := Option.some.inj (hp.symm.trans hcorner)
  exact ⟨⟨horders, hnode⟩, hunplaced, hpositions g' hunplaced⟩

end TableGraph
