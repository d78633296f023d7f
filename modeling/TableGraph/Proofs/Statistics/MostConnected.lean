/-
The most connected tables.

Counts are sorted, but a count does not say whose it is: two tables may have the same name, and
the same relationships touch them then.  So the tables are told apart by their places in the
schema, and the list is seen as an order of these places.  In it a place comes before another
one if more relationships touch its table, or as many and it stands earlier in the schema.  As
no two places are equal in this, nothing is left open, and this is all that it means for the
sort to be stable.

A limit cuts the order off and does not change it.  What is said of the order holds of its
beginnings, and of two limits the smaller one gives a beginning of what the larger one gives.
-/
import TableGraph.Schema.Statistics
import Mathlib.Data.List.FinRange
import Mathlib.Data.List.Nodup

namespace TableGraph

open Text

/-! ### Sorting and places -/

section Sorting

variable {α : Type} {le : α → α → Bool}

/-- Entries with their places are compared by the entries first. -/
theorem zipIdxLE_iff {a b : α × Nat} :
    List.zipIdxLE le a b ↔ le a.1 b.1 ∧ (le b.1 a.1 → a.2 ≤ b.2) := by
  unfold List.zipIdxLE
  by_cases hab : le a.1 b.1 <;> by_cases hba : le b.1 a.1 <;> simp [hab, hba]

/-- **Sorting is stable.**  A sorted list takes its entries from the places in some order, and of
two entries that may stand either way the one from the earlier place comes first. -/
theorem exists_places_mergeSort (htrans : ∀ a b c, le a b → le b c → le a c)
    (htotal : ∀ a b, le a b || le b a) (l : List α) :
    ∃ places : List (Fin l.length), places.Perm (List.finRange l.length) ∧
      places.Pairwise (fun i j => le l[i] l[j] ∧ (le l[j] l[i] → i < j)) ∧
      l.mergeSort le = places.map (l[·]) := by
  let numbered : Fin l.length → α × Nat := fun i => (l[i], i)
  let leAt : Fin l.length → Fin l.length → Bool := fun i j =>
    List.zipIdxLE le (numbered i) (numbered j)
  have hnumbered : (List.finRange l.length).map numbered = l.zipIdx := by
    apply List.ext_getElem
    · simp
    · intro i _ _
      simp [numbered]
  have htransAt : ∀ i j k, leAt i j → leAt j k → leAt i k := fun i j k =>
    List.zipIdxLE_trans htrans (numbered i) (numbered j) (numbered k)
  have htotalAt : ∀ i j, leAt i j || leAt j i := fun i j =>
    List.zipIdxLE_total htotal (numbered i) (numbered j)
  have hperm := List.mergeSort_perm (List.finRange l.length) leAt
  refine ⟨(List.finRange l.length).mergeSort leAt, hperm, ?_, ?_⟩
  · have hsorted := List.pairwise_mergeSort htransAt htotalAt (List.finRange l.length)
    have hdistinct := hperm.nodup_iff.mpr (List.nodup_finRange l.length)
    refine (hsorted.and hdistinct).imp ?_
    rintro i j ⟨hle, hne⟩
    obtain ⟨hij, hties⟩ := zipIdxLE_iff.mp hle
    exact ⟨hij, fun hji => lt_of_le_of_ne (hties hji) hne⟩
  · have hmap : ((List.finRange l.length).mergeSort leAt).map numbered
        = l.zipIdx.mergeSort (List.zipIdxLE le) := by
      rw [← hnumbered]
      exact List.map_mergeSort fun i _ j _ => rfl
    rw [← List.mergeSort_zipIdx, ← hmap, List.map_map]
    rfl

end Sorting

namespace Schema

variable (s : Schema)

/-! ### The order of the tables -/

/-- How many relationships have the table at an end; one that has it at both counts once. -/
def touchCount (t : Table) : Nat :=
  (s.relationships.filter fun r => sameName r.source t.name || sameName r.target t.name).length

/-- More relationships touch the table at the first place, or as many and it stands earlier. -/
def ListedBefore (i j : Fin s.tables.length) : Prop :=
  s.touchCount s.tables[j] < s.touchCount s.tables[i] ∨
    s.touchCount s.tables[j] = s.touchCount s.tables[i] ∧ i < j

theorem connections_eq (t : Table) :
    Statistics.connections s.relationships t = ⟨t.name, s.touchCount t⟩ := by
  rw [Statistics.connections, List.countP_eq_length_filter]
  rfl

/-- The list is that of the tables in their order, up to the limit. -/
theorem exists_order_mostConnected :
    ∃ order : List (Fin s.tables.length), order.Perm (List.finRange s.tables.length) ∧
      order.Pairwise s.ListedBefore ∧
      ∀ limit, s.mostConnected limit
        = (order.take limit).map fun i => ⟨s.tables[i].name, s.touchCount s.tables[i]⟩ := by
  let le : Table → Table → Bool := fun t u => decide (s.touchCount u ≤ s.touchCount t)
  have htrans : ∀ t u v, le t u → le u v → le t v := by
    intro t u v htu huv
    simp only [le, decide_eq_true_eq] at *
    exact huv.trans htu
  have htotal : ∀ t u, le t u || le u t := by
    intro t u
    simp only [le, Bool.or_eq_true, decide_eq_true_eq]
    exact Nat.le_total _ _
  obtain ⟨order, hperm, hsorted, heq⟩ := exists_places_mergeSort htrans htotal s.tables
  refine ⟨order, hperm, hsorted.imp ?_, fun limit => ?_⟩
  · rintro i j ⟨hle, hties⟩
    simp only [le, decide_eq_true_eq] at hle hties
    rcases Nat.lt_or_eq_of_le hle with hlt | heq
    · exact Or.inl hlt
    · exact Or.inr ⟨heq, hties heq.ge⟩
  · have hmap : (s.tables.map (Statistics.connections s.relationships)).mergeSort
          (fun a b => decide (b.count ≤ a.count))
        = (s.tables.mergeSort le).map (Statistics.connections s.relationships) := by
      refine (List.map_mergeSort fun t _ u _ => ?_).symm
      simp only [connections_eq, le]
    rw [mostConnected, hmap, heq, List.map_map, List.map_take]
    congr 2
    funext i
    exact s.connections_eq s.tables[i]

variable {s} {order : List (Fin s.tables.length)} {limit : Nat} {i j : Fin s.tables.length}

theorem ListedBefore.touchCount_le (h : s.ListedBefore i j) :
    s.touchCount s.tables[j] ≤ s.touchCount s.tables[i] := by
  rcases h with hlt | ⟨heq, -⟩
  · exact hlt.le
  · exact heq.le

theorem ListedBefore.asymm (h : s.ListedBefore i j) : ¬ s.ListedBefore j i := by
  unfold ListedBefore at *
  omega

/-- There is only one such order of the tables. -/
theorem order_unique {order' : List (Fin s.tables.length)}
    (hperm : order.Perm (List.finRange s.tables.length)) (hsorted : order.Pairwise s.ListedBefore)
    (hperm' : order'.Perm (List.finRange s.tables.length))
    (hsorted' : order'.Pairwise s.ListedBefore) : order' = order :=
  (hperm'.trans hperm.symm).eq_of_pairwise (fun _ _ _ _ h h' => absurd h' h.asymm) hsorted' hsorted

/-- What is left out comes after all that is listed. -/
theorem listedBefore_of_mem_take (hperm : order.Perm (List.finRange s.tables.length))
    (hsorted : order.Pairwise s.ListedBefore) (hi : i ∈ order.take limit)
    (hj : j ∉ order.take limit) : s.ListedBefore i j := by
  have hmem : j ∈ order.take limit ++ order.drop limit := by
    rw [List.take_append_drop]
    exact hperm.mem_iff.mpr (List.mem_finRange j)
  have hdrop : j ∈ order.drop limit := (List.mem_append.mp hmem).resolve_left hj
  rw [← List.take_append_drop limit order] at hsorted
  exact (List.pairwise_append.mp hsorted).2.2 i hi j hdrop

end Schema

/--
**The most connected tables come first.**  There is one order of the tables in which those with
more relationships at them come before those with fewer, and of tables with as many the one that
the schema has first.  Whatever the limit, the list is the beginning of this order that has as
many tables as the limit allows, each with its count.  So no table that is left out has more
relationships than one that is listed, and a smaller limit gives a beginning of what a larger one
gives.
-/
theorem mostConnected_stableTop (s : Schema) :
    ∃ order : List (Fin s.tables.length),
      order.Perm (List.finRange s.tables.length) ∧ order.Pairwise s.ListedBefore ∧
      (∀ order' : List (Fin s.tables.length), order'.Perm (List.finRange s.tables.length) →
        order'.Pairwise s.ListedBefore → order' = order) ∧
      (∀ limit, s.mostConnected limit
        = (order.take limit).map fun i => ⟨s.tables[i].name, s.touchCount s.tables[i]⟩) ∧
      (∀ limit, (s.mostConnected limit).length = min limit s.tables.length) ∧
      (∀ limit, ∀ i ∈ order.take limit, ∀ j ∉ order.take limit,
        s.touchCount s.tables[j] ≤ s.touchCount s.tables[i]) ∧
      ∀ small large, small ≤ large → s.mostConnected small <+: s.mostConnected large := by
  obtain ⟨order, hperm, hsorted, hlists⟩ := s.exists_order_mostConnected
  refine ⟨order, hperm, hsorted, fun _ hperm' hsorted' =>
    Schema.order_unique hperm hsorted hperm' hsorted', hlists, fun limit => ?_,
    fun limit i hi j hj => ?_, fun small large hle => ?_⟩
  · rw [hlists, List.length_map, List.length_take, hperm.length_eq, List.length_finRange]
  · exact (Schema.listedBefore_of_mem_take hperm hsorted hi hj).touchCount_le
  · rw [hlists, hlists]
    exact (List.take_prefix_take_left hle).map _

/-- Two tables of one name are touched by the same relationship, and the limit comes between
them; a relationship from a table to itself counts once. -/
theorem mostConnected_stableTop_sameName :
    let s : Schema :=
      { tables := [{ name := "logs" }, { name := "Users" }, { name := "orders" },
          { name := "USERS" }, { name := "items" }]
        relationships := [⟨"Orders", "users", .reference "user_id" "id"⟩,
          ⟨"items", "ORDERS", .reference "order_id" "id"⟩, ⟨"orders", "orders", .sharedKey "no"⟩,
          ⟨"orders", "missing", .reference "x" "id"⟩] }
    let order : List (Fin s.tables.length) := [2, 1, 3, 4, 0]
    order.Perm (List.finRange s.tables.length) ∧ order.Pairwise s.ListedBefore ∧
      s.mostConnected 2 = [⟨"orders", 4⟩, ⟨"Users", 1⟩] ∧
      (1 ∈ order.take 2 ∧ 3 ∉ order.take 2 ∧
        s.touchCount s.tables[3] ≤ s.touchCount s.tables[1]) ∧
      2 ≤ 3 ∧ s.mostConnected 2 <+: s.mostConnected 3 := by
  intro s order
  have hperm : order.Perm (List.finRange s.tables.length) := by decide +kernel
  have hsorted : order.Pairwise s.ListedBefore := by
    unfold Schema.ListedBefore
    decide +kernel
  obtain ⟨order', -, -, hunique, hlists, -, homitted, hprefix⟩ := mostConnected_stableTop s
  obtain rfl : order = order' := hunique order hperm hsorted
  have hlist : s.mostConnected 2 = [⟨"orders", 4⟩, ⟨"Users", 1⟩] := by
    rw [hlists]
    decide +kernel
  have hin : 1 ∈ order.take 2 := by decide
  have hout : 3 ∉ order.take 2 := by decide
  have hle : 2 ≤ 3 := by decide
  exact ⟨hperm, hsorted, hlist, ⟨hin, hout, homitted 2 1 hin 3 hout⟩, hle, hprefix 2 3 hle⟩

end TableGraph
