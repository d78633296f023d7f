/-
Placing nodes in layers.

The nodes of one rank form a layer.  Layers follow each other along the direction of the
flow, each as deep as its largest node, and the nodes of a layer are stacked across it in
their order.  Between two layers, and between two nodes of a layer, a gap is left.

The numbers may be of any type with addition and a maximum.
-/
import TableGraph.Graph.Basic
import TableGraph.Graph.Rank

namespace TableGraph.Layout

/-- Where the ranks lead. -/
inductive Direction
  | leftRight
  | topBottom
deriving Repr, DecidableEq, Inhabited

namespace Direction

/-- The short name of a direction. -/
def name : Direction → String
  | .leftRight => "LR"
  | .topBottom => "TB"

/-- The direction of this short name in any case.  Only ASCII letters have `L`, `R`, `T`
and `B` as their capitals, so ASCII case is all there is to ignore. -/
def ofName? (s : String) : Option Direction :=
  if Text.sameName s "LR" then some .leftRight
  else if Text.sameName s "TB" then some .topBottom
  else none

end Direction

/-- A node to be placed, with its size. -/
structure Box (α : Type) where
  id : String
  width : α
  height : α
deriving Repr, DecidableEq, Inhabited

/-- How the layers are arranged. -/
structure Layered (α : Type) where
  direction : Direction
  /-- The gap between two nodes of a layer. -/
  nodeSep : α
  /-- The gap between two layers. -/
  rankSep : α
  /-- Where the first layer begins, and where each layer begins across the flow. -/
  margin : α
deriving Repr, DecidableEq, Inhabited

namespace Layered

variable {α : Type}

/-- The size of a node along the flow. -/
def along (l : Layered α) (b : Box α) : α :=
  match l.direction with
  | .leftRight => b.width
  | .topBottom => b.height

/-- The size of a node across the flow. -/
def across (l : Layered α) (b : Box α) : α :=
  match l.direction with
  | .leftRight => b.height
  | .topBottom => b.width

/-- The point with these coordinates along the flow and across it. -/
def point (l : Layered α) (alongFlow acrossFlow : α) : Position α :=
  match l.direction with
  | .leftRight => ⟨alongFlow, acrossFlow⟩
  | .topBottom => ⟨acrossFlow, alongFlow⟩

/-- A node to be placed and its rank. -/
abbrev Ranked (α : Type) := Box α × Nat

/-- The nodes of this rank. -/
def layer (boxes : List (Ranked α)) (rank : Nat) : List (Box α) :=
  (boxes.filter (·.2 == rank)).map (·.1)

variable [Add α] [Max α] [OfNat α 0]

/-- How deep the layer is. -/
def extent (l : Layered α) (boxes : List (Ranked α)) (rank : Nat) : α :=
  (layer boxes rank).foldl (fun deepest b => max deepest (l.along b)) 0

/-- How deep the layers are, in the order of their ranks. -/
def extents (l : Layered α) (boxes : List (Ranked α)) : List α :=
  let count := boxes.foldl (fun count b => max count (b.2 + 1)) 0
  (List.range count).map (l.extent boxes)

omit [Max α] [OfNat α 0] in
/-- Where a layer begins along the flow, given the depths of the layers before it. -/
def offset (l : Layered α) (before : List α) : α :=
  before.foldl (fun offset depth => offset + (depth + l.rankSep)) l.margin

omit [Max α] [OfNat α 0] in
/-- Where a node begins across the flow, given the nodes of its layer before it. -/
def cursor (l : Layered α) (before : List (Box α)) : α :=
  before.foldl (fun cursor b => cursor + (l.across b + l.nodeSep)) l.margin

omit [Max α] [OfNat α 0] in
/-- Places nodes that come after those in `placed`. -/
def placeAfter (l : Layered α) (depths : List α) (placed : List (Ranked α)) :
    List (Ranked α) → List (Position α)
  | [] => []
  | b :: rest =>
    l.point (l.offset (depths.take b.2)) (l.cursor (layer placed b.2))
      :: l.placeAfter depths (placed ++ [b]) rest

/-- The upper left corner of every node, in the order of the nodes. -/
def place (l : Layered α) (boxes : List (Box α)) (arrows : List Arrow) : List (Position α) :=
  let ranked := boxes.zip (assignRanks (boxes.map (·.id)) arrows)
  l.placeAfter (l.extents ranked) [] ranked

end Layered

/-- The usual arrangement. -/
def standard : Layered Float where
  direction := .leftRight
  nodeSep := 100.0
  rankSep := 150.0
  margin := 50.0

end TableGraph.Layout
