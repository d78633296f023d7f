/-
Sweeps come to an end.

A sweep settles one node after the other, and each of them in a ranking that the nodes
before it may have changed.  Two things hold of every single step and so of a whole sweep:
a rank that has been found stays, and a step that changes anything ranks one node more.
From the first it follows that a sweep ranks every node whose predecessors had ranks before
it began, whatever happened meanwhile.  From the second it follows that a sweep that changes
anything leaves fewer nodes without a rank, so that there are at most as many such sweeps as
there are nodes.  The bound on the number of sweeps is therefore never what ends them: the
result is a ranking that another sweep does not change.
-/
import TableGraph.Graph.Rank
import Mathlib

namespace TableGraph.Layout

variable {ranks : Ranking} {node v : Nat} {before : List Nat}

/-- The node has a rank. -/
def Settled (ranks : Ranking) (v : Nat) : Prop := ∃ k, rankOf? ranks v = some k

/-- How many nodes have no rank. -/
def unsettled (ranks : Ranking) : Nat := ranks.count none

/-! ### Ranks of nodes -/

theorem rankOf?_eq_some_iff {k : Nat} : rankOf? ranks v = some k ↔ ranks[v]? = some (some k) := by
  rw [rankOf?, Option.join_eq_some_iff]

theorem Settled.lt_length (h : Settled ranks v) : v < ranks.length := by
  obtain ⟨k, hk⟩ := h
  exact (List.getElem?_eq_some_iff.mp (rankOf?_eq_some_iff.mp hk)).1

/-- All of these nodes have ranks, and these are their ranks. -/
theorem mapM_rankOf?_eq_some_iff {known : List Nat} :
    before.mapM (rankOf? ranks) = some known ↔ before.map (rankOf? ranks) = known.map some := by
  induction before generalizing known with
  | nil => cases known <;> simp
  | cons u rest ih =>
      rw [List.mapM_cons, List.map_cons]
      cases hu : rankOf? ranks u with
      | none => cases known <;> simp
      | some k =>
          cases known with
          | nil => cases rest.mapM (rankOf? ranks) <;> simp
          | cons k' known' =>
              simp only [Option.bind_eq_bind, Option.bind_some, List.map_cons, List.cons.injEq,
                Option.some.injEq, ← @ih known']
              cases rest.mapM (rankOf? ranks) <;> simp

theorem exists_mapM_rankOf? (h : ∀ u ∈ before, Settled ranks u) :
    ∃ known, before.mapM (rankOf? ranks) = some known := by
  refine ⟨before.filterMap (rankOf? ranks), mapM_rankOf?_eq_some_iff.mpr ?_⟩
  rw [List.map_filterMap]
  induction before with
  | nil => rfl
  | cons u rest ih =>
      obtain ⟨k, hk⟩ := h u (by simp)
      rw [List.map_cons, ih fun w hw => h w (by simp [hw]), List.filterMap_cons, hk]
      rfl

/-! ### One step -/

/-- A step leaves all as it is, or ranks a node without a rank after its predecessors. -/
theorem settleNode_cases (ranks : Ranking) (node : Nat) (before : List Nat) :
    settleNode ranks node before = ranks ∨
      ∃ known, rankOf? ranks node = none ∧ before.map (rankOf? ranks) = known.map some ∧
        settleNode ranks node before = ranks.set node (some (rankAfter known)) := by
  unfold settleNode
  cases hnode : rankOf? ranks node with
  | some k => exact Or.inl rfl
  | none =>
      cases hknown : before.mapM (rankOf? ranks) with
      | none => exact Or.inl rfl
      | some known => exact Or.inr ⟨known, rfl, mapM_rankOf?_eq_some_iff.mp hknown, rfl⟩

@[simp] theorem length_settleNode (ranks : Ranking) (node : Nat) (before : List Nat) :
    (settleNode ranks node before).length = ranks.length := by
  rcases settleNode_cases ranks node before with h | ⟨known, -, -, h⟩ <;> simp [h]

/-- A rank that has been found stays. -/
theorem rankOf?_settleNode {k : Nat} (h : rankOf? ranks v = some k) (node : Nat)
    (before : List Nat) : rankOf? (settleNode ranks node before) v = some k := by
  rcases settleNode_cases ranks node before with hsame | ⟨known, hnode, -, hset⟩
  · rw [hsame, h]
  · have hne : node ≠ v := by
      rintro rfl
      rw [hnode] at h
      cases h
    rw [hset, rankOf?, List.getElem?_set_ne hne, ← rankOf?, h]

theorem Settled.settleNode (h : Settled ranks v) (node : Nat) (before : List Nat) :
    Settled (settleNode ranks node before) v := by
  obtain ⟨k, hk⟩ := h
  exact ⟨k, rankOf?_settleNode hk node before⟩

/-- A node whose predecessors have ranks gets one. -/
theorem settled_settleNode (hnode : node < ranks.length) (h : ∀ u ∈ before, Settled ranks u) :
    Settled (settleNode ranks node before) node := by
  obtain ⟨known, hknown⟩ := exists_mapM_rankOf? h
  cases hrank : rankOf? ranks node with
  | some k => exact Settled.settleNode ⟨k, hrank⟩ node before
  | none =>
      refine ⟨rankAfter known, ?_⟩
      simp only [Layout.settleNode, hrank, hknown]
      rw [rankOf?_eq_some_iff, List.getElem?_set_self hnode]

/-- A step that changes anything leaves one node less without a rank. -/
theorem settleNode_eq_or_lt (ranks : Ranking) (node : Nat) (before : List Nat) :
    settleNode ranks node before = ranks ∨
      unsettled (settleNode ranks node before) < unsettled ranks := by
  rcases settleNode_cases ranks node before with hsame | ⟨known, hnode, -, hset⟩
  · exact Or.inl hsame
  · by_cases hlt : node < ranks.length
    · right
      have hnone : ranks[node] = none := by
        rw [rankOf?, List.getElem?_eq_getElem hlt] at hnode
        simpa using hnode
      have hpos : 0 < ranks.count none := List.count_pos_iff.mpr (hnone ▸ List.getElem_mem hlt)
      have hranked : (some (rankAfter known) == none) = false := rfl
      rw [hset, unsettled, unsettled, List.count_set hlt, hnone, hranked]
      simp only [beq_self_eq_true, if_true, Bool.false_eq_true, if_false]
      omega
    · left
      rw [hset, List.set_eq_of_length_le (by omega)]

/-! ### One sweep -/

/-- The steps of a sweep for these nodes. -/
def settleAll (ranks : Ranking) (entries : List (List Nat × Nat)) : Ranking :=
  entries.foldl (fun ranks entry => settleNode ranks entry.2 entry.1) ranks

theorem sweep_eq_settleAll (preds : List (List Nat)) (ranks : Ranking) :
    sweep preds ranks = settleAll ranks preds.zipIdx := rfl

theorem settleAll_cons (ranks : Ranking) (entry : List Nat × Nat) (rest : List (List Nat × Nat)) :
    settleAll ranks (entry :: rest) = settleAll (settleNode ranks entry.2 entry.1) rest := rfl

theorem Settled.settleAll (entries : List (List Nat × Nat)) :
    ∀ {ranks : Ranking}, Settled ranks v → Settled (settleAll ranks entries) v := by
  induction entries with
  | nil => intro ranks h; exact h
  | cons entry rest ih => intro ranks h; exact ih (h.settleNode entry.2 entry.1)

/-- A node is ranked when its turn comes, if its predecessors were ranked at the start. -/
theorem settled_settleAll (entries : List (List Nat × Nat)) :
    ∀ {ranks : Ranking}, v < ranks.length → (before, v) ∈ entries →
      (∀ u ∈ before, Settled ranks u) → Settled (settleAll ranks entries) v := by
  induction entries with
  | nil => intro ranks _ hmem; simp at hmem
  | cons entry rest ih =>
      intro ranks hv hmem hbefore
      rw [settleAll_cons]
      rcases List.mem_cons.mp hmem with rfl | hrest
      · exact (settled_settleNode hv hbefore).settleAll rest
      · exact ih (by simpa using hv) hrest fun u hu => (hbefore u hu).settleNode entry.2 entry.1

theorem settleAll_eq_or_lt (entries : List (List Nat × Nat)) :
    ∀ ranks : Ranking, settleAll ranks entries = ranks ∨
      unsettled (settleAll ranks entries) < unsettled ranks := by
  induction entries with
  | nil => intro ranks; exact Or.inl rfl
  | cons entry rest ih =>
      intro ranks
      rw [settleAll_cons]
      rcases settleNode_eq_or_lt ranks entry.2 entry.1 with hsame | hless
      · rw [hsame]
        exact ih ranks
      · right
        rcases ih (settleNode ranks entry.2 entry.1) with hrest | hrest
        · rw [hrest]
          exact hless
        · omega

variable {preds : List (List Nat)}

/-- A ranking that a sweep does not change has ranked every node whose predecessors are
ranked. -/
theorem settled_of_sweep_eq (hlength : ranks.length = preds.length)
    (hfixed : sweep preds ranks = ranks) (hv : preds[v]? = some before)
    (hbefore : ∀ u ∈ before, Settled ranks u) : Settled ranks v := by
  have hmem : (before, v) ∈ preds.zipIdx := List.mem_zipIdx_iff_getElem?.mpr hv
  have hlt : v < ranks.length := by
    rw [hlength]
    exact (List.getElem?_eq_some_iff.mp hv).1
  rw [← hfixed]
  exact settled_settleAll _ hlt hmem hbefore

/-! ### All sweeps -/

/-- As many sweeps as there are nodes without a rank are enough: the last of them changes
nothing. -/
theorem exists_iterate_sweep (preds : List (List Nat)) :
    ∀ (count : Nat) (ranks : Ranking), unsettled ranks ≤ count →
      ∃ sweeps ≤ count, settle preds count ranks = (sweep preds)^[sweeps] ranks ∧
        sweep preds (settle preds count ranks) = settle preds count ranks := by
  intro count
  induction count with
  | zero =>
      intro ranks hcount
      refine ⟨0, Nat.le_refl 0, rfl, ?_⟩
      rcases settleAll_eq_or_lt preds.zipIdx ranks with hsame | hless
      · exact hsame
      · omega
  | succ count ih =>
      intro ranks hcount
      by_cases hnext : sweep preds ranks = ranks
      · have hsettle : settle preds (count + 1) ranks = ranks := by simp [settle, hnext]
        rw [hsettle]
        exact ⟨0, Nat.zero_le _, rfl, hnext⟩
      · have hsettle : settle preds (count + 1) ranks
            = settle preds count (sweep preds ranks) := by
          simp [settle, hnext]
        have hless := (settleAll_eq_or_lt preds.zipIdx ranks).resolve_left hnext
        rw [← sweep_eq_settleAll] at hless
        obtain ⟨sweeps, hsweeps, hiterate, hfixed⟩ := ih (sweep preds ranks) (by omega)
        rw [hsettle]
        exact ⟨sweeps + 1, by omega, hiterate, hfixed⟩

end TableGraph.Layout
