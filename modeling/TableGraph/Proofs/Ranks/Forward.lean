/-
Which arrows lead to a later rank.

A node lies one rank after the deepest of its predecessors, so one would expect every arrow
to lead to a later rank, except between nodes of one cycle, which cannot all lie after each
other.  That is not so.  The nodes behind a cycle have no longest path to them either, and
they share the last rank with the cycle itself, however the arrows lead on from there.  So
what decides is where an arrow starts: after a cycle it stays in the last rank, and
everywhere else it leads to a later one.

The ranks are as one would expect them for the graphs in which nothing lies behind a cycle,
and for no others.
-/
import TableGraph.Proofs.Ranks.LongestPath

namespace TableGraph.Layout

open Text

/-- Every arrow leads to a later rank, unless its start can be reached from its end. -/
def LeadsForward (leads : Nat → Nat → Prop) (ranks : List Nat) : Prop :=
  ∀ u v, leads u v → ¬ Relation.ReflTransGen leads v u →
    ∃ j k, ranks[u]? = some j ∧ ranks[v]? = some k ∧ j < k

/-- Whatever can be reached from a cycle leads back to it. -/
def CyclesClosed (leads : Nat → Nat → Prop) : Prop :=
  ∀ c v, Relation.TransGen leads c c → Relation.ReflTransGen leads c v →
    Relation.ReflTransGen leads v c

variable {leads : Nat → Nat → Prop}

/-- It is enough to look at the single arrows after a cycle. -/
theorem cyclesClosed_iff : CyclesClosed leads ↔
    ∀ u v, leads u v → AfterCycle leads u → Relation.ReflTransGen leads v u := by
  constructor
  · rintro h u v huv ⟨c, hcycle, hreach⟩
    exact (h c v hcycle (hreach.tail huv)).trans hreach
  · intro h c v hcycle hreach
    induction hreach with
    | refl => exact .refl
    | tail hbefore hstep ih => exact (h _ _ hstep ⟨c, hcycle, hbefore⟩).trans ih

namespace LongestPathRanks

variable {count : Nat} {ranks : List Nat}

/-- The ranks of the two ends of an arrow, and which of them is later. -/
theorem exists_ranks_of_leads (h : LongestPathRanks leads count ranks) {u v : Nat}
    (huv : leads u v) (hu : u < count) (hv : v < count) :
    ∃ j k, ranks[u]? = some j ∧ ranks[v]? = some k ∧ j ≤ k ∧ (j < k ↔ ¬ AfterCycle leads u) := by
  obtain ⟨j, hj⟩ := h.exists_rank_iff.mpr hu
  obtain ⟨k, hk⟩ := h.exists_rank_iff.mpr hv
  refine ⟨j, k, hj, hk, h.le_of_leads huv hj hk, ?_, h.lt_of_leads huv hj hk⟩
  intro hlt hcycle
  exact hlt.ne (h.eq_of_leads huv hj hk hcycle)

theorem leadsForward_iff (h : LongestPathRanks leads count ranks)
    (hbound : ∀ u v, leads u v → u < count ∧ v < count) :
    LeadsForward leads ranks ↔ CyclesClosed leads := by
  rw [cyclesClosed_iff]
  constructor
  · intro hforward u v huv hcycle
    by_contra hback
    obtain ⟨j, k, hj, hk, hlt⟩ := hforward u v huv hback
    exact hlt.ne (h.eq_of_leads huv hj hk hcycle)
  · intro hclosed u v huv hback
    have hcycle : ¬ AfterCycle leads u := fun hcycle => hback (hclosed u v huv hcycle)
    obtain ⟨j, k, hj, hk, -, hlt⟩ :=
      h.exists_ranks_of_leads huv (hbound u v huv).1 (hbound u v huv).2
    exact ⟨j, k, hj, hk, hlt.mpr hcycle⟩

end LongestPathRanks

/--
**Which arrows lead to a later rank.**  No arrow leads to an earlier rank, and it leads to a
later one just if there is no cycle before its start.  All arrows lead forward, those within
a cycle aside, just if whatever can be reached from a cycle leads back to it.
-/
theorem leadsForward_assignRanks_iff (ids : List String) (arrows : List Arrow) :
    (∀ u v, Leads ids arrows u v →
      ∃ j k, (assignRanks ids arrows)[u]? = some j ∧ (assignRanks ids arrows)[v]? = some k ∧
        j ≤ k ∧ (j < k ↔ ¬ AfterCycle (Leads ids arrows) u)) ∧
    (LeadsForward (Leads ids arrows) (assignRanks ids arrows) ↔
      CyclesClosed (Leads ids arrows)) := by
  have hranks := longestPathRanks_assignRanks ids arrows
  refine ⟨fun u v huv => ?_, hranks.leadsForward_iff fun u v huv => huv.lt_length⟩
  exact hranks.exists_ranks_of_leads huv huv.lt_length.1 huv.lt_length.2

/-- The arrow into the cycle leads forward, and the one that leaves it does not. -/
theorem leadsForward_assignRanks_iff_throughCycle :
    let ids := ["root", "x", "y", "z"]
    let arrows : List Arrow := [⟨"Root", "x"⟩, ⟨"x", "y"⟩, ⟨"y", "x"⟩, ⟨"x", "Z"⟩]
    (Leads ids arrows 0 1 ∧ ∃ j k, [0, 1, 1, 1][0]? = some j ∧ [0, 1, 1, 1][1]? = some k ∧
      j ≤ k ∧ (j < k ↔ ¬ AfterCycle (Leads ids arrows) 0)) ∧
    (Leads ids arrows 1 3 ∧ ∃ j k, [0, 1, 1, 1][1]? = some j ∧ [0, 1, 1, 1][3]? = some k ∧
      j ≤ k ∧ (j < k ↔ ¬ AfterCycle (Leads ids arrows) 1)) := by
  intro ids arrows
  have hranks : assignRanks ids arrows = [0, 1, 1, 1] := by decide +kernel
  have hinto : Leads ids arrows 0 1 := by
    rw [leads_iff_exists_ends]
    decide +kernel
  have hout : Leads ids arrows 1 3 := by
    rw [leads_iff_exists_ends]
    decide +kernel
  obtain ⟨hforward, -⟩ := leadsForward_assignRanks_iff ids arrows
  rw [hranks] at hforward
  exact ⟨⟨hinto, hforward 0 1 hinto⟩, ⟨hout, hforward 1 3 hout⟩⟩

/-- A node behind a cycle shares its rank with the cycle, which cannot be reached from it. -/
theorem not_leadsForward_behindCycle :
    let ids := ["root", "x", "y", "z"]
    let arrows : List Arrow := [⟨"x", "y"⟩, ⟨"y", "x"⟩, ⟨"x", "z"⟩]
    ids.Pairwise (fun a b => ¬ sameName a b) ∧ assignRanks ids arrows = [0, 1, 1, 1] ∧
      ¬ LeadsForward (Leads ids arrows) (assignRanks ids arrows) := by
  intro ids arrows
  have hranks : assignRanks ids arrows = [0, 1, 1, 1] := by decide +kernel
  refine ⟨by decide, hranks, ?_⟩
  intro hforward
  have hleads : Leads ids arrows 1 3 := by
    rw [leads_iff_exists_ends]
    decide +kernel
  have hback : ¬ Relation.ReflTransGen (Leads ids arrows) 3 1 := by
    intro hreach
    -- No arrow starts at the last node.
    rcases Relation.ReflTransGen.cases_head hreach with heq | ⟨w, ⟨-, a, ha, hsource, -⟩, -⟩
    · cases heq
    · rw [← lastIndex?_eq_some_iff] at hsource
      revert a
      decide +kernel
  obtain ⟨j, k, hj, hk, hlt⟩ := hforward 1 3 hleads hback
  rw [hranks] at hj hk
  cases hj
  cases hk
  exact absurd hlt (Nat.lt_irrefl 1)

end TableGraph.Layout
