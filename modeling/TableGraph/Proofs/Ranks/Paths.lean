/-
Paths and cycles among finitely many nodes.

Of a relation that leads from nodes to nodes two things matter for ranks: how long a path
to a node can be, and whether there is a cycle on the way.  They are tied together.  From a
cycle paths of any length lead on, because it can be gone round as often as one likes.  And
the nodes without a cycle before them can be taken one after the other, each after all
nodes that lead to it; for this there must be finitely many.
-/
import Mathlib

namespace TableGraph.Layout

variable {leads : Nat → Nat → Prop} {u v : Nat}

/-- A path with this number of steps ends at the node.  It may come through a node more
than once. -/
inductive Path (leads : Nat → Nat → Prop) : Nat → Nat → Prop
  | start (v : Nat) : Path leads 0 v
  | step {length u v : Nat} (h : Path leads length u) (huv : leads u v) :
      Path leads (length + 1) v

/-- The node is on a cycle, or can be reached from one. -/
def AfterCycle (leads : Nat → Nat → Prop) (v : Nat) : Prop :=
  ∃ c, Relation.TransGen leads c c ∧ Relation.ReflTransGen leads c v

/-! ### Long paths -/

theorem Path.extend {length : Nat} (h : Path leads length u) (huv : Relation.TransGen leads u v) :
    ∃ longer, length < longer ∧ Path leads longer v := by
  induction huv with
  | single hstep => exact ⟨length + 1, by omega, h.step hstep⟩
  | tail _ hstep ih =>
      obtain ⟨longer, hlonger, hpath⟩ := ih
      exact ⟨longer + 1, by omega, hpath.step hstep⟩

/-- Going round a cycle makes a path as long as one likes. -/
theorem exists_path_of_cycle {c : Nat} (hcycle : Relation.TransGen leads c c) :
    ∀ bound, ∃ length, bound ≤ length ∧ Path leads length c := by
  intro bound
  induction bound with
  | zero => exact ⟨0, Nat.le_refl 0, .start c⟩
  | succ bound ih =>
      obtain ⟨length, hlength, hpath⟩ := ih
      obtain ⟨longer, hlonger, hround⟩ := hpath.extend hcycle
      exact ⟨longer, by omega, hround⟩

/-- There is no longest path to a node after a cycle. -/
theorem not_isGreatest_of_afterCycle (h : AfterCycle leads v) (k : Nat) :
    ¬ IsGreatest {length | Path leads length v} k := by
  intro hgreatest
  obtain ⟨c, hcycle, hreach⟩ := h
  obtain ⟨length, hlength, hpath⟩ := exists_path_of_cycle hcycle (k + 1)
  obtain ⟨longer, hlonger, hend⟩ : ∃ longer, length ≤ longer ∧ Path leads longer v := by
    rcases Relation.reflTransGen_iff_eq_or_transGen.mp hreach with rfl | hsteps
    · exact ⟨length, Nat.le_refl length, hpath⟩
    · obtain ⟨longer, hlonger, hend⟩ := hpath.extend hsteps
      exact ⟨longer, by omega, hend⟩
  have hle := hgreatest.2 hend
  omega

/-! ### Taking the nodes one after the other -/

theorem AfterCycle.step (h : AfterCycle leads u) (huv : leads u v) : AfterCycle leads v := by
  obtain ⟨c, hcycle, hreach⟩ := h
  exact ⟨c, hcycle, hreach.tail huv⟩

/-- Among finitely many nodes without a cycle before them, going back along the arrows comes
to an end. -/
theorem wellFounded_of_not_afterCycle (leads : Nat → Nat → Prop) (n : Nat) :
    WellFounded fun a b : {v // v < n ∧ ¬ AfterCycle leads v} =>
      Relation.TransGen leads a.1 b.1 := by
  have hfinite : Finite {v // v < n ∧ ¬ AfterCycle leads v} := by
    apply Finite.of_injective fun a => (⟨a.1, a.2.1⟩ : Fin n)
    intro a b hab
    exact Subtype.ext (congrArg Fin.val hab)
  have htrans : IsTrans {v // v < n ∧ ¬ AfterCycle leads v} fun a b =>
      Relation.TransGen leads a.1 b.1 :=
    ⟨fun _ _ _ hab hbc => hab.trans hbc⟩
  have hirrefl : Std.Irrefl fun a b : {v // v < n ∧ ¬ AfterCycle leads v} =>
      Relation.TransGen leads a.1 b.1 :=
    ⟨fun a hcycle => a.2.2 ⟨a.1, hcycle, .refl⟩⟩
  exact Finite.wellFounded_of_trans_of_irrefl _

/-- What passes on to a node from all nodes that lead to it holds of every node without a
cycle before it. -/
theorem induction_of_not_afterCycle {n : Nat} (hbound : ∀ u v, leads u v → u < n)
    {P : Nat → Prop} (hstep : ∀ v, v < n → (∀ u, leads u v → P u) → P v)
    (hv : v < n) (hcycle : ¬ AfterCycle leads v) : P v := by
  refine (wellFounded_of_not_afterCycle leads n).induction
    (C := fun a => P a.1) ⟨v, hv, hcycle⟩ ?_
  intro a ih
  refine hstep a.1 a.2.1 fun u hu => ?_
  exact ih ⟨u, hbound u a.1 hu, fun hbehind => a.2.2 (hbehind.step hu)⟩ (.single hu)

end TableGraph.Layout
