/-
Ranks: how deep a node lies along the direction of the edges.

A node without predecessors has rank 0, and any other node lies one rank after the
deepest of its predecessors.  Nodes on a cycle, and nodes behind one, have no such rank;
they share the rank after the deepest of the others.

The ranks are found by sweeping over the nodes.  A sweep ranks every node whose
predecessors are all ranked by then, also earlier in the same sweep.  A sweep that
changes anything ranks one more node, so as many sweeps as there are nodes are enough.
-/
import TableGraph.Text.Case

namespace TableGraph.Layout

open Text

/-- An edge between two nodes, given by their ids. -/
structure Arrow where
  source : String
  target : String
deriving Repr, DecidableEq, Inhabited

/-- The position of the last node of this id. -/
def lastIndex? (ids : List String) (id : String) : Option Nat :=
  (ids.zipIdx.reverse.find? fun entry => sameName entry.1 id).map (·.2)

/-- The positions of an arrow's two ends, if both exist and are not the same. -/
def ends? (ids : List String) (a : Arrow) : Option (Nat × Nat) :=
  match lastIndex? ids a.source, lastIndex? ids a.target with
  | some source, some target => if source = target then none else some (source, target)
  | _, _ => none

/-- For every node the positions of its predecessors, each once. -/
def predecessors (ids : List String) (arrows : List Arrow) : List (List Nat) :=
  let pairs := arrows.filterMap (ends? ids)
  (List.range ids.length).map fun node =>
    ((pairs.filter (·.2 == node)).map (·.1)).eraseDups

/-- The ranks found so far. -/
abbrev Ranking := List (Option Nat)

/-- The rank of a node, if it has been found. -/
def rankOf? (ranks : Ranking) (node : Nat) : Option Nat := (ranks[node]?).join

/-- One more than the deepest of these ranks. -/
def rankAfter (ranks : List Nat) : Nat := ranks.foldl max 0 + 1

/-- Ranks one node if it has no rank yet and all its predecessors have one. -/
def settleNode (ranks : Ranking) (node : Nat) (before : List Nat) : Ranking :=
  match rankOf? ranks node with
  | some _ => ranks
  | none =>
    match before.mapM (rankOf? ranks) with
    | some known => ranks.set node (some (rankAfter known))
    | none => ranks

/-- Goes over all nodes once. -/
def sweep (preds : List (List Nat)) (ranks : Ranking) : Ranking :=
  preds.zipIdx.foldl (fun ranks entry => settleNode ranks entry.2 entry.1) ranks

/-- Sweeps until nothing changes, at most `count` times. -/
def settle (preds : List (List Nat)) : Nat → Ranking → Ranking
  | 0, ranks => ranks
  | count + 1, ranks =>
    let next := sweep preds ranks
    if next == ranks then ranks else settle preds count next

/-- Nodes without predecessors have rank 0, and no other rank is known. -/
def initialRanks (preds : List (List Nat)) : Ranking :=
  preds.map fun before => if before.isEmpty then some 0 else none

/-- The rank after the deepest known one. -/
def restRank (ranks : Ranking) : Nat := (ranks.filterMap id).foldl max 0 + 1

/-- The rank of every node. -/
def assignRanks (ids : List String) (arrows : List Arrow) : List Nat :=
  let preds := predecessors ids arrows
  let ranks := settle preds ids.length (initialRanks preds)
  ranks.map (·.getD (restRank ranks))

end TableGraph.Layout
