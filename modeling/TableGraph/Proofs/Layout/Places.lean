/-
Every node gets a place.

The walk over the nodes keeps one cursor for every layer, and nodes of different layers come
in any order.  But a node moves only the cursor of its own layer.  So where a node is placed
can be said without the walk: along the flow it depends on the depths of the layers before
its own, and across the flow on the nodes before it in its own layer.

Nothing here depends on what the numbers are.  There are as many ranks as nodes, and for each
rank there is a layer, so no node is passed over and none is put into a layer that is not there.
-/
import TableGraph.Proofs.Ranks.Gaps

namespace TableGraph.Layout.Layered

variable {α : Type}

theorem length_ranks (boxes : List (Box α)) (arrows : List Arrow) :
    (assignRanks (boxes.map (·.id)) arrows).length = boxes.length := by
  rw [(longestPathRanks_assignRanks (boxes.map (·.id)) arrows).length, List.length_map]

/-- The rank of every node is that of a layer. -/
theorem lt_length_extents [Max α] [OfNat α 0] (l : Layered α) {boxes : List (Box α)}
    {arrows : List Arrow} {rank : Nat} (hrank : rank ∈ assignRanks (boxes.map (·.id)) arrows) :
    rank < (l.extents (boxes.zip (assignRanks (boxes.map (·.id)) arrows))).length := by
  refine l.lt_length_extents_iff.mpr ⟨rank, ?_, le_refl rank⟩
  rwa [List.map_snd_zip (length_ranks boxes arrows).le]

section Walk

variable [Add α] (l : Layered α)

theorem length_placeAfter (depths : List α) (rest placed : List (Ranked α)) :
    (l.placeAfter depths placed rest).length = rest.length := by
  induction rest generalizing placed with
  | nil => rfl
  | cons b rest ih => rw [placeAfter, List.length_cons, ih, List.length_cons]

/-- Across the flow a node is placed behind those before it in its layer. -/
theorem getElem?_placeAfter (depths : List α) (rest placed : List (Ranked α)) (i : Nat) :
    (l.placeAfter depths placed rest)[i]? = rest[i]?.map fun b =>
      l.point (l.offset (depths.take b.2)) (l.cursor (layer (placed ++ rest.take i) b.2)) := by
  induction rest generalizing placed i with
  | nil => rfl
  | cons b rest ih =>
      cases i with
      | zero => simp [placeAfter]
      | succ i => simp [placeAfter, ih]

end Walk

theorem length_place [Add α] [Max α] [OfNat α 0] (l : Layered α) (boxes : List (Box α))
    (arrows : List Arrow) : (l.place boxes arrows).length = boxes.length := by
  rw [place, length_placeAfter, List.length_zip, length_ranks, min_self]

end TableGraph.Layout.Layered
