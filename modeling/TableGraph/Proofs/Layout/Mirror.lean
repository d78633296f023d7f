/-
The two directions of the flow.

From top to bottom nodes are placed as they are from left to right, with the axes exchanged.
The direction is asked for wherever the size of a node is read and where its two coordinates are
put together, and nowhere else.  So it is enough that these three turn around together: then
each step of the walk may be exchanged with mirroring, from the depth of a layer to the walk as
a whole.

Sums and maxima are formed from the same numbers in the same order on both sides.  Nothing has
to be known of them, and the equality holds to the last digit of numbers that are rounded.
-/
import TableGraph.Graph.Layered

namespace TableGraph

/-- The point with its coordinates exchanged. -/
def Position.mirror {α : Type} (p : Position α) : Position α := ⟨p.y, p.x⟩

namespace Layout

variable {α : Type}

/-- The node with its width and its height exchanged. -/
def Box.mirror (b : Box α) : Box α := { b with width := b.height, height := b.width }

/-- The other direction. -/
def Direction.other : Direction → Direction
  | .leftRight => .topBottom
  | .topBottom => .leftRight

namespace Layered

/-- The arrangement along the other direction. -/
def mirror (l : Layered α) : Layered α := { l with direction := l.direction.other }

/-! ### What depends on the direction -/

theorem along_mirror (l : Layered α) (b : Box α) : l.mirror.along b = l.along b.mirror := by
  obtain ⟨direction, _, _, _⟩ := l
  cases direction <;> rfl

theorem across_mirror (l : Layered α) (b : Box α) : l.mirror.across b = l.across b.mirror := by
  obtain ⟨direction, _, _, _⟩ := l
  cases direction <;> rfl

theorem point_mirror (l : Layered α) (alongFlow acrossFlow : α) :
    l.mirror.point alongFlow acrossFlow = (l.point alongFlow acrossFlow).mirror := by
  obtain ⟨direction, _, _, _⟩ := l
  cases direction <;> rfl

/-! ### Layers -/

/-- The nodes with their sizes exchanged, each with the rank it has. -/
def mirrorRanked (ranked : List (Ranked α)) : List (Ranked α) :=
  ranked.map fun b => (b.1.mirror, b.2)

theorem layer_mirror (ranked : List (Ranked α)) (rank : Nat) :
    layer (mirrorRanked ranked) rank = (layer ranked rank).map Box.mirror := by
  simp only [layer, mirrorRanked, List.filter_map, List.map_map]
  rfl

theorem cursor_mirror [Add α] (l : Layered α) (before : List (Box α)) :
    l.mirror.cursor before = l.cursor (before.map Box.mirror) := by
  simp only [cursor, List.foldl_map, across_mirror]
  rfl

variable [Max α] [OfNat α 0]

theorem extent_mirror (l : Layered α) (ranked : List (Ranked α)) (rank : Nat) :
    l.mirror.extent ranked rank = l.extent (mirrorRanked ranked) rank := by
  simp only [extent, layer_mirror, List.foldl_map, along_mirror]

theorem extents_mirror (l : Layered α) (ranked : List (Ranked α)) :
    l.mirror.extents ranked = l.extents (mirrorRanked ranked) := by
  have hcount : ∀ count, (mirrorRanked ranked).foldl (fun count b => max count (b.2 + 1)) count
      = ranked.foldl (fun count b => max count (b.2 + 1)) count := fun count => List.foldl_map
  simp only [extents, hcount]
  exact List.map_congr_left fun rank _ => l.extent_mirror ranked rank

/-! ### The walk -/

omit [Max α] [OfNat α 0] in
theorem placeAfter_mirror [Add α] (l : Layered α) (depths : List α) (rest : List (Ranked α)) :
    ∀ placed : List (Ranked α), l.mirror.placeAfter depths placed rest
      = (l.placeAfter depths (mirrorRanked placed) (mirrorRanked rest)).map Position.mirror := by
  induction rest with
  | nil => intro placed; rfl
  | cons b rest ih =>
      intro placed
      have hplaced : mirrorRanked (placed ++ [b]) = mirrorRanked placed ++ [(b.1.mirror, b.2)] :=
        List.map_append
      have hcorner : l.mirror.point (l.mirror.offset (depths.take b.2))
            (l.mirror.cursor (layer placed b.2))
          = (l.point (l.offset (depths.take b.2))
              (l.cursor (layer (mirrorRanked placed) b.2))).mirror := by
        rw [point_mirror, cursor_mirror, layer_mirror]
        rfl
      rw [placeAfter, ih, hcorner, hplaced]
      rfl

/-- **Mirrored nodes are placed at the mirrored points**, along the other direction. -/
theorem place_mirror [Add α] (l : Layered α) (boxes : List (Box α)) (arrows : List Arrow) :
    l.mirror.place boxes arrows
      = (l.place (boxes.map Box.mirror) arrows).map Position.mirror := by
  have hids : (boxes.map Box.mirror).map (·.id) = boxes.map (·.id) := by
    rw [List.map_map]
    rfl
  have hranked : ∀ ranks : List Nat,
      (boxes.map Box.mirror).zip ranks = mirrorRanked (boxes.zip ranks) := fun _ =>
    List.zip_map_left
  rw [place, place, extents_mirror, placeAfter_mirror, hids, hranked]
  rfl

end Layered

/--
**The two directions are mirror images of each other.**  For all numbers, whatever their sums
and maxima are, nodes are placed from top to bottom at the mirrored points of those at which
the nodes with width and height exchanged are placed from left to right, with the same gaps and
the same margin, and the other way round.
-/
theorem place_directions {α : Type} [Add α] [Max α] [OfNat α 0] (nodeSep rankSep margin : α)
    (boxes : List (Box α)) (arrows : List Arrow) :
    let leftRight : Layered α := ⟨.leftRight, nodeSep, rankSep, margin⟩
    let topBottom : Layered α := ⟨.topBottom, nodeSep, rankSep, margin⟩
    topBottom.place boxes arrows
        = (leftRight.place (boxes.map Box.mirror) arrows).map Position.mirror ∧
      leftRight.place boxes arrows
        = (topBottom.place (boxes.map Box.mirror) arrows).map Position.mirror := by
  intro leftRight topBottom
  exact ⟨leftRight.place_mirror boxes arrows, topBottom.place_mirror boxes arrows⟩

/-- Numbers that are rounded, in three layers of nodes of unequal sizes. -/
example :
    let boxes : List (Box Float) :=
      [⟨"orders", 0.1, 0.7⟩, ⟨"users", 0.2, 0.3⟩, ⟨"items", 0.4, 0.1⟩, ⟨"shops", 0.3, 0.9⟩]
    let arrows : List Arrow := [⟨"items", "orders"⟩, ⟨"orders", "users"⟩, ⟨"orders", "shops"⟩]
    (⟨.topBottom, 0.1, 0.2, 0.3⟩ : Layered Float).place boxes arrows
      = [⟨0.3, 0.6000000000000001⟩, ⟨0.3, 1.5⟩, ⟨0.3, 0.3⟩, ⟨0.6000000000000001, 1.5⟩] := by
  decide +kernel

end Layout

end TableGraph
