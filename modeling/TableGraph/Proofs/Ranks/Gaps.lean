/-
Ranks that no node has.

Going back along a longest path the ranks fall by one at every step, so a node without a
cycle before it has nodes of all lower ranks before it.  The nodes after a cycle have the
rank after the deepest of these.  So there is no gap between the ranks, provided that some
node has no cycle before it.

If there is none, the deepest rank counts as 0 although no node has it.  All nodes then have
rank 1, and where they are placed room is left for a layer that holds nothing.
-/
import TableGraph.Graph.Layered
import TableGraph.Proofs.Ranks.LongestPath

namespace TableGraph.Layout

/-- The ranks that nodes have are those up to some rank, and all of these. -/
def NoGaps (ranks : List Nat) : Prop := ∃ last, ∀ k, k ∈ ranks ↔ k ≤ last

/-! ### Which ranks are there -/

namespace LongestPathRanks

variable {leads : Nat → Nat → Prop} {count : Nat} {ranks : List Nat} {v k : Nat}

/-- A longest path comes from a node of the rank before. -/
theorem exists_rank_before (h : LongestPathRanks leads count ranks)
    (hbound : ∀ u v, leads u v → u < count) (hv : ranks[v]? = some (k + 1))
    (hcycle : ¬ AfterCycle leads v) : ∃ u, ranks[u]? = some k ∧ ¬ AfterCycle leads u := by
  have hpath : Path leads (k + 1) v := (h.longest v (k + 1) hv hcycle).1
  cases hpath with
  | @step _ u _ hshorter huv =>
      have hbefore : ¬ AfterCycle leads u := fun hafter => hcycle (hafter.step huv)
      obtain ⟨j, hj⟩ := h.exists_rank_iff.mpr (hbound u v huv)
      have hge : k ≤ j := (h.longest u j hj hbefore).2 hshorter
      have hlt := h.lt_of_leads huv hj hv hbefore
      obtain rfl : j = k := by omega
      exact ⟨u, hj, hbefore⟩

/-- Below the rank of a node without a cycle before it all ranks are taken. -/
theorem exists_rank_of_le (h : LongestPathRanks leads count ranks)
    (hbound : ∀ u v, leads u v → u < count) :
    ∀ {k v : Nat}, ranks[v]? = some k → ¬ AfterCycle leads v →
      ∀ j ≤ k, ∃ u, ranks[u]? = some j ∧ ¬ AfterCycle leads u := by
  intro k
  induction k with
  | zero =>
      intro v hv hcycle j hj
      obtain rfl : j = 0 := Nat.le_zero.mp hj
      exact ⟨v, hv, hcycle⟩
  | succ k ih =>
      intro v hv hcycle j hj
      rcases Nat.le_succ_iff.mp hj with hle | rfl
      · obtain ⟨u, hu, hbefore⟩ := h.exists_rank_before hbound hv hcycle
        exact ih hu hbefore j hle
      · exact ⟨v, hv, hcycle⟩

/-- With a node without a cycle before it, the ranks are those up to the deepest of such
nodes, and the one after it if there are others. -/
theorem noGaps_of_not_afterCycle (h : LongestPathRanks leads count ranks)
    (hbound : ∀ u v, leads u v → u < count) (hv : v < count) (hcycle : ¬ AfterCycle leads v) :
    NoGaps ranks := by
  obtain ⟨deepest, hdeepest, hrest⟩ := h.rest
  obtain ⟨w, hw, hbefore⟩ : ∃ w, ranks[w]? = some deepest ∧ ¬ AfterCycle leads w := by
    rcases hdeepest.1 with hzero | hnode
    · obtain ⟨k, hk⟩ := h.exists_rank_iff.mpr hv
      have hle : k ≤ deepest := hdeepest.2 (Or.inr ⟨v, hk, hcycle⟩)
      obtain rfl : k = deepest := by omega
      exact ⟨v, hk, hcycle⟩
    · exact hnode
  have hmem : ∀ k, k ∈ ranks ↔ k ≤ deepest ∨ ∃ u < count, AfterCycle leads u ∧ k = 1 + deepest := by
    intro k
    constructor
    · intro hk
      obtain ⟨u, hu⟩ := List.mem_iff_getElem?.mp hk
      by_cases hafter : AfterCycle leads u
      · exact Or.inr ⟨u, h.exists_rank_iff.mp ⟨k, hu⟩, hafter, hrest u k hu hafter⟩
      · exact Or.inl (hdeepest.2 (Or.inr ⟨u, hu, hafter⟩))
    · rintro (hle | ⟨u, hu, hafter, rfl⟩)
      · obtain ⟨u, hu, -⟩ := h.exists_rank_of_le hbound hw hbefore k hle
        exact List.mem_of_getElem? hu
      · obtain ⟨j, hj⟩ := h.exists_rank_iff.mpr hu
        rw [← hrest u j hj hafter]
        exact List.mem_of_getElem? hj
  by_cases hlast : ∃ u < count, AfterCycle leads u
  · obtain ⟨u, hu, hafter⟩ := hlast
    refine ⟨1 + deepest, fun k => (hmem k).trans ⟨?_, fun hle => ?_⟩⟩
    · rintro (hle | ⟨-, -, -, rfl⟩) <;> omega
    · rcases Nat.lt_or_ge deepest k with hgt | hge
      · exact Or.inr ⟨u, hu, hafter, by omega⟩
      · exact Or.inl hge
  · refine ⟨deepest, fun k => (hmem k).trans (or_iff_left ?_)⟩
    rintro ⟨u, hu, hafter, -⟩
    exact hlast ⟨u, hu, hafter⟩

theorem noGaps_iff (h : LongestPathRanks leads count ranks)
    (hbound : ∀ u v, leads u v → u < count) :
    NoGaps ranks ↔ ∃ v < count, ¬ AfterCycle leads v := by
  constructor
  · rintro ⟨last, hlast⟩
    obtain ⟨v, hv⟩ := List.mem_iff_getElem?.mp ((hlast 0).mpr (Nat.zero_le last))
    refine ⟨v, h.exists_rank_iff.mp ⟨0, hv⟩, fun hcycle => ?_⟩
    obtain ⟨deepest, -, hrest⟩ := h.rest
    have hzero := hrest v 0 hv hcycle
    omega
  · rintro ⟨v, hv, hcycle⟩
    exact h.noGaps_of_not_afterCycle hbound hv hcycle

/-- With a cycle before every node, all have rank 1. -/
theorem eq_replicate (h : LongestPathRanks leads count ranks)
    (hcycle : ∀ v < count, AfterCycle leads v) : ranks = List.replicate count 1 := by
  obtain ⟨deepest, hdeepest, hrest⟩ := h.rest
  have hafter : ∀ u k, ranks[u]? = some k → AfterCycle leads u := fun u k hu =>
    hcycle u (h.exists_rank_iff.mp ⟨k, hu⟩)
  have hzero : deepest = 0 := by
    rcases hdeepest.1 with hzero | ⟨u, hu, hbefore⟩
    · exact hzero
    · exact absurd (hafter u deepest hu) hbefore
  refine List.eq_replicate_iff.mpr ⟨h.length, fun k hk => ?_⟩
  obtain ⟨u, hu⟩ := List.mem_iff_getElem?.mp hk
  rw [hrest u k hu (hafter u k hu), hzero]

end LongestPathRanks

/-! ### Layers -/

namespace Layered

variable {α : Type} {ranked : List (Ranked α)}

theorem layer_ne_nil_iff {rank : Nat} : layer ranked rank ≠ [] ↔ rank ∈ ranked.map (·.2) := by
  rw [layer, ne_eq, List.map_eq_nil_iff, List.filter_eq_nil_iff, List.mem_map]
  simp

variable [Max α] [OfNat α 0]

/-- There are layers up to that of the last rank. -/
theorem lt_length_extents_iff (l : Layered α) {rank : Nat} :
    rank < (l.extents ranked).length ↔ ∃ k ∈ ranked.map (·.2), rank ≤ k := by
  have hcount : ∀ a, ranked.foldl (fun count b => max count (b.2 + 1)) a
      = (ranked.map (·.2 + 1)).foldl max a := fun a => List.foldl_map.symm
  obtain ⟨hmem, hupper⟩ := isGreatest_foldl_max (ranked.map (·.2 + 1)) 0
  simp only [extents, List.length_map, List.length_range, hcount]
  constructor
  · intro hlt
    rcases hmem with hzero | hlast
    · omega
    · obtain ⟨b, hb, hlast⟩ := List.mem_map.mp hlast
      exact ⟨b.2, List.mem_map_of_mem hb, by omega⟩
  · rintro ⟨k, hk, hle⟩
    obtain ⟨b, hb, rfl⟩ := List.mem_map.mp hk
    have hge := hupper (Or.inr (List.mem_map_of_mem (f := (·.2 + 1)) hb))
    omega

/-- There is a gap between the ranks just if some layer holds no node. -/
theorem noGaps_iff_layers (l : Layered α) (hne : ranked ≠ []) :
    NoGaps (ranked.map (·.2)) ↔ ∀ rank < (l.extents ranked).length, layer ranked rank ≠ [] := by
  simp only [lt_length_extents_iff, layer_ne_nil_iff]
  constructor
  · rintro ⟨last, hlast⟩ rank ⟨k, hk, hle⟩
    exact (hlast rank).mpr (hle.trans ((hlast k).mp hk))
  · intro hall
    obtain ⟨hmem, hupper⟩ := isGreatest_foldl_max (ranked.map (·.2)) 0
    have hlast : (ranked.map (·.2)).foldl max 0 ∈ ranked.map (·.2) := by
      rcases hmem with hzero | hlast
      · obtain ⟨b, hb⟩ := List.exists_mem_of_ne_nil ranked hne
        exact hall _ ⟨b.2, List.mem_map_of_mem hb, hzero.trans_le (Nat.zero_le _)⟩
      · exact hlast
    exact ⟨_, fun k => ⟨fun hk => hupper (Or.inr hk), fun hle => hall k ⟨_, hlast, hle⟩⟩⟩

end Layered

/--
**When no rank is left empty.**  The nodes take up all ranks from 0 to the last, and so all
layers for which there is room hold a node, just if some node has no cycle before it.  In a
graph with a cycle before every node all nodes have rank 1.
-/
theorem noGaps_assignRanks_iff {α : Type} [Max α] [OfNat α 0] (l : Layered α)
    {boxes : List (Box α)} (hne : boxes ≠ []) (arrows : List Arrow) :
    let ids := boxes.map (·.id)
    let ranks := assignRanks ids arrows
    (NoGaps ranks ↔ ∃ v < ids.length, ¬ AfterCycle (Leads ids arrows) v) ∧
      (NoGaps ranks ↔ ∀ rank < (l.extents (boxes.zip ranks)).length,
        Layered.layer (boxes.zip ranks) rank ≠ []) ∧
      ((∀ v < ids.length, AfterCycle (Leads ids arrows) v) →
        ranks = List.replicate ids.length 1) := by
  intro ids ranks
  have hranks : LongestPathRanks (Leads ids arrows) ids.length ranks :=
    longestPathRanks_assignRanks ids arrows
  have hlength : boxes.length = ranks.length := by
    rw [hranks.length, List.length_map]
  have hsnd : (boxes.zip ranks).map (·.2) = ranks := List.map_snd_zip hlength.ge
  refine ⟨hranks.noGaps_iff fun u v huv => huv.lt_length.1, ?_, hranks.eq_replicate⟩
  have hranked : boxes.zip ranks ≠ [] := by
    intro hnil
    rw [hnil, List.map_nil] at hsnd
    rw [← hsnd] at hlength
    exact hne (List.length_eq_zero_iff.mp hlength)
  have hlayers := l.noGaps_iff_layers hranked
  rwa [hsnd] at hlayers

/-- The nodes of the cycle take the rank after that of the node before them. -/
theorem noGaps_assignRanks_iff_cycleLast :
    let boxes : List (Box Nat) := [⟨"x", 1, 1⟩, ⟨"root", 2, 1⟩, ⟨"y", 3, 1⟩]
    let arrows : List Arrow := [⟨"Root", "x"⟩, ⟨"x", "y"⟩, ⟨"y", "X"⟩]
    let ids := boxes.map (·.id)
    let ranks := assignRanks ids arrows
    let l : Layered Nat := ⟨.leftRight, 100, 150, 50⟩
    boxes ≠ [] ∧ NoGaps ranks ∧ (∃ v < ids.length, ¬ AfterCycle (Leads ids arrows) v) ∧
      ∀ rank < (l.extents (boxes.zip ranks)).length,
        Layered.layer (boxes.zip ranks) rank ≠ [] := by
  intro boxes arrows ids ranks l
  have hne : boxes ≠ [] := by simp [boxes]
  have hlayers : ∀ rank < (l.extents (boxes.zip ranks)).length,
      Layered.layer (boxes.zip ranks) rank ≠ [] := by decide +kernel
  obtain ⟨hnodes, hrooms, -⟩ := noGaps_assignRanks_iff l hne arrows
  have hgaps : NoGaps ranks := hrooms.mpr hlayers
  exact ⟨hne, hgaps, hnodes.mp hgaps, hlayers⟩

/-- Two nodes in a cycle, and nothing else: no node has rank 0, and room is left for it all the
same. -/
theorem not_noGaps_nothingButCycle :
    let boxes : List (Box Nat) := [⟨"x", 0, 0⟩, ⟨"y", 0, 0⟩]
    let arrows : List Arrow := [⟨"x", "y"⟩, ⟨"y", "x"⟩]
    let l : Layered Nat := ⟨.leftRight, 100, 150, 50⟩
    assignRanks (boxes.map (·.id)) arrows = [1, 1] ∧
      ¬ NoGaps (assignRanks (boxes.map (·.id)) arrows) ∧
      l.place boxes arrows = [⟨200, 50⟩, ⟨200, 150⟩] := by
  intro boxes arrows l
  have hranks : assignRanks (boxes.map (·.id)) arrows = [1, 1] := by decide +kernel
  refine ⟨hranks, ?_, by decide +kernel⟩
  rintro ⟨last, hlast⟩
  have hzero := (hlast 0).mpr (Nat.zero_le last)
  rw [hranks] at hzero
  simp at hzero

end TableGraph.Layout
