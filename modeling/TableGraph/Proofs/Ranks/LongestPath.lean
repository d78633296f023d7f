/-
Ranks are the lengths of longest paths.

What a rank is worth is settled when it is found: `LongestSoFar` says that whatever rank has
been found by then is the length of the longest path to its node, and one step of a sweep
keeps this.  It does not matter that a sweep mixes ranks of its own with those of the sweep
before, because a rank never changes once it has been found.  So nothing is said of how far
the sweeps have come, and nodes after a cycle can have no rank, as there is no longest path
to them.

That every other node has a rank in the end is seen from the ranking that another sweep
does not change: going through these nodes one after the other, all predecessors of each
have ranks, and so it has one too.
-/
import TableGraph.Proofs.Ranks.Arrows
import TableGraph.Proofs.Ranks.Paths
import TableGraph.Proofs.Ranks.Sweeps

namespace TableGraph.Layout

/-- The ranks that nodes have by their longest paths: a node without a cycle before it has
the length of the longest path to it, and all others have the rank after the deepest of
these, or rank 1 if there are none. -/
structure LongestPathRanks (leads : Nat → Nat → Prop) (count : Nat) (ranks : List Nat) : Prop where
  /-- Every node has one rank. -/
  length : ranks.length = count
  longest : ∀ v k, ranks[v]? = some k → ¬ AfterCycle leads v →
    IsGreatest {length | Path leads length v} k
  rest : ∃ deepest,
    IsGreatest (insert 0 {k | ∃ u, ranks[u]? = some k ∧ ¬ AfterCycle leads u}) deepest ∧
      ∀ v k, ranks[v]? = some k → AfterCycle leads v → k = 1 + deepest

namespace LongestPathRanks

variable {leads : Nat → Nat → Prop} {count : Nat} {ranks ranks' : List Nat}

/-! ### What follows from it -/

theorem exists_rank_iff (h : LongestPathRanks leads count ranks) {v : Nat} :
    (∃ k, ranks[v]? = some k) ↔ v < count := by
  rw [← h.length]
  constructor
  · rintro ⟨k, hk⟩
    exact (List.getElem?_eq_some_iff.mp hk).1
  · intro hv
    exact ⟨_, List.getElem?_eq_getElem hv⟩

/-- An arrow from a node without a cycle before it leads to a later rank. -/
theorem lt_of_leads (h : LongestPathRanks leads count ranks) {u v j k : Nat} (huv : leads u v)
    (hu : ranks[u]? = some j) (hv : ranks[v]? = some k) (hcycle : ¬ AfterCycle leads u) :
    j < k := by
  by_cases hafter : AfterCycle leads v
  · obtain ⟨deepest, hdeepest, hrest⟩ := h.rest
    have hle := hdeepest.2 (Or.inr ⟨u, hu, hcycle⟩)
    rw [hrest v k hv hafter]
    omega
  · have hpath : Path leads j u := (h.longest u j hu hcycle).1
    exact (h.longest v k hv hafter).2 (hpath.step huv)

/-- An arrow after a cycle stays in the last rank. -/
theorem eq_of_leads (h : LongestPathRanks leads count ranks) {u v j k : Nat} (huv : leads u v)
    (hu : ranks[u]? = some j) (hv : ranks[v]? = some k) (hcycle : AfterCycle leads u) :
    j = k := by
  obtain ⟨deepest, -, hrest⟩ := h.rest
  rw [hrest u j hu hcycle, hrest v k hv (hcycle.step huv)]

/-- No arrow leads to a lower rank. -/
theorem le_of_leads (h : LongestPathRanks leads count ranks) {u v j k : Nat} (huv : leads u v)
    (hu : ranks[u]? = some j) (hv : ranks[v]? = some k) : j ≤ k := by
  by_cases hcycle : AfterCycle leads u
  · exact (h.eq_of_leads huv hu hv hcycle).le
  · exact (h.lt_of_leads huv hu hv hcycle).le

theorem getElem?_of_not_afterCycle (h : LongestPathRanks leads count ranks)
    (h' : LongestPathRanks leads count ranks') {v k : Nat} (hcycle : ¬ AfterCycle leads v)
    (hv : ranks[v]? = some k) : ranks'[v]? = some k := by
  obtain ⟨k', hv'⟩ := h'.exists_rank_iff.mpr (h.exists_rank_iff.mp ⟨k, hv⟩)
  obtain rfl := (h'.longest v k' hv' hcycle).unique (h.longest v k hv hcycle)
  exact hv'

/-- There is only one such list of ranks. -/
theorem unique (h : LongestPathRanks leads count ranks) (h' : LongestPathRanks leads count ranks') :
    ranks = ranks' := by
  obtain ⟨deepest, hdeepest, hrest⟩ := h.rest
  obtain ⟨deepest', hdeepest', hrest'⟩ := h'.rest
  have hsame : {k | ∃ u, ranks[u]? = some k ∧ ¬ AfterCycle leads u}
      = {k | ∃ u, ranks'[u]? = some k ∧ ¬ AfterCycle leads u} := by
    ext k
    constructor
    · rintro ⟨u, hu, hcycle⟩
      exact ⟨u, h.getElem?_of_not_afterCycle h' hcycle hu, hcycle⟩
    · rintro ⟨u, hu, hcycle⟩
      exact ⟨u, h'.getElem?_of_not_afterCycle h hcycle hu, hcycle⟩
  rw [hsame] at hdeepest
  obtain rfl : deepest = deepest' := hdeepest.unique hdeepest'
  apply List.ext_getElem (by rw [h.length, h'.length])
  intro v hv hv'
  have hk := List.getElem?_eq_getElem hv
  have hk' := List.getElem?_eq_getElem hv'
  by_cases hcycle : AfterCycle leads v
  · rw [hrest v _ hk hcycle, hrest' v _ hk' hcycle]
  · rw [h.getElem?_of_not_afterCycle h' hcycle hk, Option.some.injEq] at hk'
    exact hk'

end LongestPathRanks

/-! ### The deepest of some ranks -/

theorem isGreatest_foldl_max {α : Type} [LinearOrder α] (l : List α) :
    ∀ a, IsGreatest {k | k = a ∨ k ∈ l} (l.foldl max a) := by
  induction l with
  | nil =>
      intro a
      refine ⟨Or.inl rfl, ?_⟩
      rintro k (rfl | hk)
      · exact le_refl k
      · simp at hk
  | cons b rest ih =>
      intro a
      obtain ⟨hmem, hupper⟩ := ih (max a b)
      rw [List.foldl_cons]
      constructor
      · rcases hmem with heq | hrest
        · rcases max_choice a b with hmax | hmax
          · exact Or.inl (heq.trans hmax)
          · exact Or.inr (by rw [heq, hmax]; exact List.mem_cons_self)
        · exact Or.inr (List.mem_cons_of_mem b hrest)
      · rintro k (rfl | hk)
        · exact (le_max_left k b).trans (hupper (Or.inl rfl))
        · rcases List.mem_cons.mp hk with rfl | hrest
          · exact (le_max_right a k).trans (hupper (Or.inl rfl))
          · exact hupper (Or.inr hrest)

/-- The rank after some ranks lies right after one of them, and after all. -/
theorem rankAfter_spec {known : List Nat} (hne : known ≠ []) :
    ∃ deepest ∈ known, rankAfter known = deepest + 1 ∧ ∀ k ∈ known, k ≤ deepest := by
  obtain ⟨hmem, hupper⟩ := isGreatest_foldl_max known 0
  refine ⟨known.foldl max 0, ?_, rfl, fun k hk => hupper (Or.inr hk)⟩
  rcases hmem with hzero | hknown
  · obtain ⟨k, hk⟩ := List.exists_mem_of_ne_nil known hne
    have hle := hupper (Or.inr hk)
    rw [hzero] at hle ⊢
    rwa [← Nat.le_zero.mp hle]
  · exact hknown

/-! ### What is known of the ranks found so far -/

/-- The one node is listed among the predecessors of the other. -/
def Precedes (preds : List (List Nat)) (u v : Nat) : Prop :=
  ∃ before, preds[v]? = some before ∧ u ∈ before

theorem precedes_predecessors (ids : List String) (arrows : List Arrow) :
    Precedes (predecessors ids arrows) = Leads ids arrows := by
  funext u v
  apply propext
  constructor
  · rintro ⟨before, hbefore, hu⟩
    exact (mem_predecessors hbefore).mp hu
  · intro huv
    have hlt : v < (predecessors ids arrows).length := by
      rw [length_predecessors]
      exact huv.lt_length.2
    have hbefore := List.getElem?_eq_getElem hlt
    exact ⟨_, hbefore, (mem_predecessors hbefore).mpr huv⟩

/-- Every rank that has been found is the length of the longest path to its node, and the
nodes without predecessors have theirs. -/
structure LongestSoFar (preds : List (List Nat)) (ranks : Ranking) : Prop where
  length : ranks.length = preds.length
  starts : ∀ v, preds[v]? = some [] → rankOf? ranks v = some 0
  longest : ∀ v k, rankOf? ranks v = some k →
    IsGreatest {length | Path (Precedes preds) length v} k

variable {preds : List (List Nat)} {ranks : Ranking} {before : List Nat} {v : Nat}

theorem rankOf?_initialRanks {k : Nat} :
    rankOf? (initialRanks preds) v = some k ↔ preds[v]? = some [] ∧ k = 0 := by
  rw [rankOf?_eq_some_iff, initialRanks, List.getElem?_map]
  cases preds[v]? with
  | none => simp
  | some before =>
      cases before with
      | nil => simpa using eq_comm
      | cons u rest => simp

theorem longestSoFar_initialRanks (preds : List (List Nat)) :
    LongestSoFar preds (initialRanks preds) where
  length := by simp [initialRanks]
  starts := fun v hv => rankOf?_initialRanks.mpr ⟨hv, rfl⟩
  longest := by
    intro v k hk
    obtain ⟨hnone, rfl⟩ := rankOf?_initialRanks.mp hk
    refine ⟨.start v, ?_⟩
    intro length hpath
    cases hpath with
    | start => exact Nat.le_refl 0
    | step _ huv =>
        obtain ⟨before, hbefore, hu⟩ := huv
        rw [hnone, Option.some.injEq] at hbefore
        simp [← hbefore] at hu

/-- The longest path to a node comes from the deepest of its predecessors. -/
theorem isGreatest_rankAfter (hbefore : preds[v]? = some before) (hne : before ≠ [])
    {known : List Nat} (hknown : before.map (rankOf? ranks) = known.map some)
    (hlongest : ∀ u k, rankOf? ranks u = some k →
      IsGreatest {length | Path (Precedes preds) length u} k) :
    IsGreatest {length | Path (Precedes preds) length v} (rankAfter known) := by
  have hranks : ∀ u ∈ before, ∃ k ∈ known, rankOf? ranks u = some k := by
    intro u hu
    have hmem : rankOf? ranks u ∈ known.map some := hknown ▸ List.mem_map_of_mem hu
    obtain ⟨k, hk, hrank⟩ := List.mem_map.mp hmem
    exact ⟨k, hk, hrank.symm⟩
  have hnodes : ∀ k ∈ known, ∃ u ∈ before, rankOf? ranks u = some k := by
    intro k hk
    have hmem : some k ∈ before.map (rankOf? ranks) := hknown ▸ List.mem_map_of_mem hk
    exact List.mem_map.mp hmem
  have hknownne : known ≠ [] := by
    rintro rfl
    exact hne (List.map_eq_nil_iff.mp hknown)
  obtain ⟨deepest, hdeepest, hafter, hupper⟩ := rankAfter_spec hknownne
  rw [hafter]
  constructor
  · obtain ⟨u, hu, hrank⟩ := hnodes deepest hdeepest
    have hpath : Path (Precedes preds) deepest u := (hlongest u deepest hrank).1
    exact hpath.step ⟨before, hbefore, hu⟩
  · intro length hpath
    cases hpath with
    | start => exact Nat.zero_le _
    | step hshorter huv =>
        obtain ⟨before', hbefore', hu⟩ := huv
        obtain rfl : before = before' := Option.some.inj (hbefore.symm.trans hbefore')
        obtain ⟨k, hk, hrank⟩ := hranks _ hu
        exact Nat.succ_le_succ (((hlongest _ k hrank).2 hshorter).trans (hupper k hk))

/-- The ranks that have been found. -/
theorem mem_filterMap_id_iff {k : Nat} :
    k ∈ ranks.filterMap id ↔ ∃ u, rankOf? ranks u = some k := by
  simp only [rankOf?_eq_some_iff, ← List.mem_iff_getElem?]
  simp

theorem getElem?_map_getD_of_rankOf? {rest k : Nat} (h : rankOf? ranks v = some k) :
    (ranks.map (·.getD rest))[v]? = some k := by
  rw [List.getElem?_map, rankOf?_eq_some_iff.mp h]
  rfl

/-! ### What steps and sweeps keep -/

namespace LongestSoFar

theorem settleNode (h : LongestSoFar preds ranks) (hbefore : preds[v]? = some before) :
    LongestSoFar preds (settleNode ranks v before) where
  length := by rw [length_settleNode, h.length]
  starts := fun u hu => rankOf?_settleNode (h.starts u hu) v before
  longest := by
    rcases settleNode_cases ranks v before with hsame | ⟨known, hnone, hknown, hset⟩
    · rw [hsame]
      exact h.longest
    · intro u k hk
      by_cases huv : v = u
      · subst huv
        -- A node without predecessors had its rank from the start, and this one had none.
        have hne : before ≠ [] := by
          rintro rfl
          rw [h.starts v hbefore] at hnone
          cases hnone
        have hlt : v < ranks.length := by
          rw [h.length]
          exact (List.getElem?_eq_some_iff.mp hbefore).1
        rw [hset, rankOf?_eq_some_iff, List.getElem?_set_self hlt, Option.some.injEq,
          Option.some.injEq] at hk
        rw [← hk]
        exact isGreatest_rankAfter hbefore hne hknown h.longest
      · rw [hset, rankOf?, List.getElem?_set_ne huv] at hk
        exact h.longest u k hk

theorem settleAll (entries : List (List Nat × Nat)) :
    ∀ {ranks : Ranking}, LongestSoFar preds ranks →
      (∀ entry ∈ entries, preds[entry.2]? = some entry.1) →
        LongestSoFar preds (settleAll ranks entries) := by
  induction entries with
  | nil => intro ranks h _; exact h
  | cons entry rest ih =>
      intro ranks h hentries
      rw [settleAll_cons]
      exact ih (h.settleNode (hentries entry (by simp))) fun other hother =>
        hentries other (by simp [hother])

theorem sweep (h : LongestSoFar preds ranks) : LongestSoFar preds (sweep preds ranks) :=
  h.settleAll preds.zipIdx fun _ hentry => List.mem_zipIdx_iff_getElem?.mp hentry

theorem iterate_sweep (h : LongestSoFar preds ranks) (sweeps : Nat) :
    LongestSoFar preds ((Layout.sweep preds)^[sweeps] ranks) := by
  induction sweeps with
  | zero => exact h
  | succ sweeps ih =>
      rw [Function.iterate_succ_apply']
      exact ih.sweep

/-- When a sweep changes nothing any more, the nodes without a cycle before them are those
that have ranks. -/
theorem settled_iff (h : LongestSoFar preds ranks) (hfixed : Layout.sweep preds ranks = ranks)
    (hbound : ∀ u v, Precedes preds u v → u < preds.length) (hv : v < preds.length) :
    Settled ranks v ↔ ¬ AfterCycle (Precedes preds) v := by
  constructor
  · rintro ⟨k, hk⟩ hcycle
    exact not_isGreatest_of_afterCycle hcycle k (h.longest v k hk)
  · intro hcycle
    refine induction_of_not_afterCycle hbound (fun w hw hbefore => ?_) hv hcycle
    have hpreds := List.getElem?_eq_getElem hw
    exact settled_of_sweep_eq h.length hfixed hpreds fun u hu => hbefore u ⟨_, hpreds, hu⟩

theorem rankOf?_of_not_afterCycle (h : LongestSoFar preds ranks)
    (hfixed : Layout.sweep preds ranks = ranks)
    (hbound : ∀ u v, Precedes preds u v → u < preds.length) {rest k : Nat}
    (hk : (ranks.map (·.getD rest))[v]? = some k) (hcycle : ¬ AfterCycle (Precedes preds) v) :
    rankOf? ranks v = some k := by
  have hlt := (List.getElem?_eq_some_iff.mp hk).1
  rw [List.length_map, h.length] at hlt
  obtain ⟨k', hk'⟩ := (h.settled_iff hfixed hbound hlt).mpr hcycle
  rw [hk', ← hk, getElem?_map_getD_of_rankOf? hk']

theorem eq_of_afterCycle (h : LongestSoFar preds ranks) {rest k : Nat}
    (hk : (ranks.map (·.getD rest))[v]? = some k) (hcycle : AfterCycle (Precedes preds) v) :
    k = rest := by
  rw [List.getElem?_map, Option.map_eq_some_iff] at hk
  obtain ⟨rank, hrank, rfl⟩ := hk
  cases rank with
  | none => rfl
  | some k =>
      have hgreatest := h.longest v k (rankOf?_eq_some_iff.mpr hrank)
      exact absurd hgreatest (not_isGreatest_of_afterCycle hcycle k)

/-- The ranks that are made of such a ranking. -/
theorem longestPathRanks (h : LongestSoFar preds ranks) (hfixed : Layout.sweep preds ranks = ranks)
    (hbound : ∀ u v, Precedes preds u v → u < preds.length) :
    LongestPathRanks (Precedes preds) preds.length (ranks.map (·.getD (restRank ranks))) := by
  refine ⟨by rw [List.length_map, h.length], ?_, (ranks.filterMap id).foldl max 0, ?_, ?_⟩
  · intro v k hk hcycle
    exact h.longest v k (h.rankOf?_of_not_afterCycle hfixed hbound hk hcycle)
  · have hsame : insert 0 {k | ∃ u, (ranks.map (·.getD (restRank ranks)))[u]? = some k ∧
        ¬ AfterCycle (Precedes preds) u} = {k | k = 0 ∨ k ∈ ranks.filterMap id} := by
      ext k
      refine or_congr_right (Iff.trans ⟨?_, ?_⟩ mem_filterMap_id_iff.symm)
      · rintro ⟨u, hu, hcycle⟩
        exact ⟨u, h.rankOf?_of_not_afterCycle hfixed hbound hu hcycle⟩
      · rintro ⟨u, hk⟩
        have hlt := (Settled.lt_length ⟨k, hk⟩).trans_eq h.length
        exact ⟨u, getElem?_map_getD_of_rankOf? hk,
          (h.settled_iff hfixed hbound hlt).mp ⟨k, hk⟩⟩
    rw [hsame]
    exact isGreatest_foldl_max _ 0
  · intro v k hk hcycle
    rw [h.eq_of_afterCycle hk hcycle, restRank, Nat.add_comm]

end LongestSoFar

/-! ### The ranks of a graph -/

theorem unsettled_initialRanks_le (preds : List (List Nat)) :
    unsettled (initialRanks preds) ≤ preds.length := by
  have hle := List.count_le_length (a := none) (l := initialRanks preds)
  rwa [initialRanks, List.length_map, ← initialRanks] at hle

/-- The sweeps end by themselves, and the ranks are read off where they end. -/
theorem exists_sweeps_assignRanks (ids : List String) (arrows : List Arrow) :
    ∃ sweeps ≤ ids.length, ∃ ranks, ranks
        = (sweep (predecessors ids arrows))^[sweeps] (initialRanks (predecessors ids arrows)) ∧
      sweep (predecessors ids arrows) ranks = ranks ∧
        assignRanks ids arrows = ranks.map (·.getD (restRank ranks)) := by
  have hcount := unsettled_initialRanks_le (predecessors ids arrows)
  rw [length_predecessors] at hcount
  obtain ⟨sweeps, hsweeps, hiterate, hfixed⟩ :=
    exists_iterate_sweep (predecessors ids arrows) ids.length _ hcount
  exact ⟨sweeps, hsweeps, _, hiterate, hfixed, rfl⟩

theorem longestPathRanks_assignRanks (ids : List String) (arrows : List Arrow) :
    LongestPathRanks (Leads ids arrows) ids.length (assignRanks ids arrows) := by
  obtain ⟨sweeps, -, ranks, hranks, hfixed, hassign⟩ := exists_sweeps_assignRanks ids arrows
  have hlongest : LongestSoFar (predecessors ids arrows) ranks := by
    rw [hranks]
    exact (longestSoFar_initialRanks _).iterate_sweep sweeps
  have hbound : ∀ u v, Precedes (predecessors ids arrows) u v →
      u < (predecessors ids arrows).length := by
    intro u v huv
    rw [precedes_predecessors] at huv
    rw [length_predecessors]
    exact huv.lt_length.1
  rw [hassign, ← precedes_predecessors, ← length_predecessors ids arrows]
  exact hlongest.longestPathRanks hfixed hbound

/--
**Ranks are the lengths of longest paths.**  At most as many sweeps as there are nodes change
anything, and the ranks are those that nodes have by their longest paths.  So no arrow
leads to a lower rank, and neither the order of the arrows nor their repetition matters.
-/
theorem assignRanks_longestPath (ids : List String) (arrows : List Arrow) :
    (∃ sweeps ≤ ids.length, ∃ ranks, ranks
        = (sweep (predecessors ids arrows))^[sweeps] (initialRanks (predecessors ids arrows)) ∧
      sweep (predecessors ids arrows) ranks = ranks ∧
        assignRanks ids arrows = ranks.map (·.getD (restRank ranks))) ∧
    LongestPathRanks (Leads ids arrows) ids.length (assignRanks ids arrows) ∧
    (∀ u v j k, Leads ids arrows u v → (assignRanks ids arrows)[u]? = some j →
      (assignRanks ids arrows)[v]? = some k → j ≤ k) ∧
    ∀ arrows' : List Arrow, (∀ a, a ∈ arrows' ↔ a ∈ arrows) →
      assignRanks ids arrows' = assignRanks ids arrows := by
  have hranks := longestPathRanks_assignRanks ids arrows
  refine ⟨exists_sweeps_assignRanks ids arrows, hranks,
    fun u v j k huv hu hv => hranks.le_of_leads huv hu hv, fun arrows' hsame => ?_⟩
  have hleads : Leads ids arrows' = Leads ids arrows := by
    funext u v
    simp only [Leads, hsame]
  have hranks' := longestPathRanks_assignRanks ids arrows'
  rw [hleads] at hranks'
  exact hranks'.unique hranks

/-- Two nodes go round in a cycle, and the second node is hidden by the last, which goes by
the same id. -/
theorem assignRanks_longestPath_cycle :
    let ids := ["root", "Mid", "x", "y", "mid"]
    let arrows : List Arrow :=
      [⟨"ROOT", "mid"⟩, ⟨"mid", "X"⟩, ⟨"x", "y"⟩, ⟨"y", "x"⟩, ⟨"y", "nowhere"⟩, ⟨"root", "Root"⟩]
    assignRanks ids arrows = [0, 0, 2, 2, 1] ∧
      LongestPathRanks (Leads ids arrows) ids.length [0, 0, 2, 2, 1] ∧
      (∃ j k, [0, 0, 2, 2, 1][4]? = some j ∧ [0, 0, 2, 2, 1][2]? = some k ∧
        Leads ids arrows 4 2 ∧ j ≤ k) ∧
      assignRanks ids (arrows.reverse ++ arrows) = [0, 0, 2, 2, 1] := by
  intro ids arrows
  have hranks : assignRanks ids arrows = [0, 0, 2, 2, 1] := by decide +kernel
  have hends : ends? ids ⟨"mid", "X"⟩ = some (4, 2) := by decide +kernel
  obtain ⟨hne, hmid, hx⟩ := ends?_eq_some_iff.mp hends
  have hleads : Leads ids arrows 4 2 := ⟨hne, _, by simp [arrows], hmid, hx⟩
  obtain ⟨-, hlongest, hle, hsame⟩ := assignRanks_longestPath ids arrows
  have hmirrored := hsame (arrows.reverse ++ arrows) (by simp)
  rw [hranks] at hlongest hle hmirrored
  exact ⟨hranks, hlongest, ⟨1, 2, rfl, rfl, hleads, hle 4 2 1 2 hleads rfl rfl⟩, hmirrored⟩

end TableGraph.Layout
