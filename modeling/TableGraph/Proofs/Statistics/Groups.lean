/-
The groups of the tables.

A table either adds a group or raises the count of one that is there already, in place.  That no
group is listed twice, that groups stand in the order of their first tables and that the counts
are exact depend on each other: only if the group is listed once does its entry count all of its
tables, and only because a new one goes to the end does the order stay.  So they are kept
together, by `GroupsMet`, which one more table keeps.

What a name has to do with its group plays no part in this.  Groups are just names, and `other`
is the group of a table called `other_things` as well as of one without an underscore.
-/
import TableGraph.Schema.Statistics
import TableGraph.Proofs.Schema.FirstMet
import Mathlib.Algebra.BigOperators.Group.List.Lemmas
import Mathlib.Algebra.GroupWithZero.Nat
import Mathlib.Data.List.Dedup

namespace TableGraph

namespace Statistics

/-- The groups met so far, in order, and how often each was met. -/
structure GroupsMet (met : List String) (groups : List GroupCount) : Prop where
  names : FirstMet met (groups.map (·.group))
  count : ∀ g ∈ groups, g.count = met.count g.group

/-! ### One more table -/

/-- A group is counted where it is listed, or goes to the end. -/
theorem countGroup_cases (groups : List GroupCount) (name : String) :
    (∃ before g after, groups = before ++ g :: after ∧ g.group = name ∧
      countGroup groups name = before ++ { g with count := g.count + 1 } :: after) ∨
    (name ∉ groups.map (·.group) ∧ countGroup groups name = groups ++ [⟨name, 1⟩]) := by
  unfold countGroup
  split
  · rename_i i hi
    obtain ⟨before, g, after, hsplit, hname, hmodify⟩ :=
      exists_split_of_findIdx? hi fun g => { g with count := g.count + 1 }
    exact Or.inl ⟨before, g, after, hsplit, beq_iff_eq.mp hname, hmodify⟩
  · rename_i hnone
    refine Or.inr ⟨fun hmem => ?_, rfl⟩
    obtain ⟨g, hg, hname⟩ := List.mem_map.mp hmem
    have hdiffers := List.findIdx?_eq_none_iff.mp hnone g hg
    simp [hname] at hdiffers

namespace GroupsMet

variable {met : List String} {groups : List GroupCount}

theorem nil : GroupsMet [] [] := ⟨.nil, by simp⟩

/-- The other groups count what they did before. -/
theorem count_concat_of_ne (h : GroupsMet met groups) {g : GroupCount} (hg : g ∈ groups)
    {name : String} (hne : g.group ≠ name) : g.count = (met ++ [name]).count g.group := by
  rw [List.count_append, h.count g hg, List.count_singleton]
  simp [hne.symm]

/-- A table of a group that is listed raises the count of this group, and of no other. -/
theorem raise {before after : List GroupCount} {g : GroupCount}
    (h : GroupsMet met (before ++ g :: after)) :
    GroupsMet (met ++ [g.group]) (before ++ { g with count := g.count + 1 } :: after) where
  names := by
    have hlisted : g.group ∈ (before ++ g :: after).map (·.group) :=
      List.mem_map_of_mem (List.mem_append_right _ List.mem_cons_self)
    simpa using h.names.again hlisted
  count := by
    -- No group is listed twice, so the entry that is raised is the only one of its group.
    refine forall_mem_of_changed h.names.nodup ?_ fun k hk hne => h.count_concat_of_ne hk hne
    show g.count + 1 = (met ++ [g.group]).count g.group
    rw [List.count_append, h.count g (by simp), List.count_singleton_self]

/-- A table of a group that is not listed adds the group. -/
theorem add (h : GroupsMet met groups) {name : String} (hnew : name ∉ groups.map (·.group)) :
    GroupsMet (met ++ [name]) (groups ++ [⟨name, 1⟩]) where
  names := by simpa using h.names.concat hnew
  count := by
    intro k hk
    rcases List.mem_append.mp hk with hk | hk
    · exact h.count_concat_of_ne hk fun hsame => hnew (List.mem_map.mpr ⟨k, hk, hsame⟩)
    · obtain rfl := List.mem_singleton.mp hk
      have hzero : met.count name = 0 :=
        List.count_eq_zero.mpr fun hmet => hnew ((h.names.mem_iff name).mpr hmet)
      rw [List.count_append, hzero, List.count_singleton_self]

theorem countGroup (h : GroupsMet met groups) (name : String) :
    GroupsMet (met ++ [name]) (countGroup groups name) := by
  rcases countGroup_cases groups name with ⟨before, g, after, rfl, rfl, heq⟩ | ⟨hnew, heq⟩
  · rw [heq]
    exact h.raise
  · rw [heq]
    exact h.add hnew

/-! ### All tables -/

theorem foldl_countGroup (names : List String) :
    ∀ {met : List String} {groups : List GroupCount}, GroupsMet met groups →
      GroupsMet (met ++ names) (names.foldl Statistics.countGroup groups) := by
  induction names with
  | nil =>
      intro met groups h
      rwa [List.append_nil]
  | cons name rest ih =>
      intro met groups h
      have hrest := ih (h.countGroup name)
      rwa [List.append_assoc, List.singleton_append] at hrest

/-- A group that is listed was met. -/
theorem one_le_count (h : GroupsMet met groups) {g : GroupCount} (hg : g ∈ groups) :
    1 ≤ g.count := by
  rw [h.count g hg, List.one_le_count_iff, ← h.names.mem_iff]
  exact List.mem_map_of_mem hg

/-- The groups count all that was met, and nothing twice. -/
theorem sum_counts (h : GroupsMet met groups) : (groups.map (·.count)).sum = met.length := by
  have hcounts : groups.map (·.count) = (groups.map (·.group)).map met.count := by
    rw [List.map_map]
    exact List.map_congr_left h.count
  have hperm : (groups.map (·.group)).Perm met.dedup :=
    (List.perm_ext_iff_of_nodup h.names.nodup met.nodup_dedup).mpr fun name => by
      rw [h.names.mem_iff, List.mem_dedup]
  calc (groups.map (·.count)).sum
      = ((groups.map (·.group)).map met.count).sum := by rw [hcounts]
    _ = (met.dedup.map met.count).sum := (hperm.map met.count).sum_eq
    _ = met.length := List.sum_map_count_dedup_eq_length met

end GroupsMet

theorem groupsMet_groupCounts (tables : List Table) :
    GroupsMet (tables.map Table.group) (groupCounts tables) := by
  have hall := GroupsMet.nil.foldl_countGroup (tables.map Table.group)
  rwa [List.nil_append, List.foldl_map] at hall

end Statistics

open Statistics

/--
**The groups divide the tables up.**  No group is listed twice, the groups are those of the
tables, and one comes before another if a table of it comes before all tables of the other.  A
group counts the tables that are in it, at least one, and taken together the groups count all
tables.
-/
theorem groupCounts_partition (tables : List Table) :
    let names := (groupCounts tables).map (·.group)
    names.Nodup ∧
      (∀ name, name ∈ names ↔ ∃ t ∈ tables, t.group = name) ∧
      names.Pairwise (fun a b =>
        tables.findIdx (fun t => t.group == a) < tables.findIdx (fun t => t.group == b)) ∧
      (∀ g ∈ groupCounts tables,
        g.count = (tables.filter fun t => t.group == g.group).length ∧ 1 ≤ g.count) ∧
      ((groupCounts tables).map (·.count)).sum = tables.length := by
  intro names
  have h := groupsMet_groupCounts tables
  have hfirst : ∀ name, (tables.map Table.group).idxOf name
      = tables.findIdx (fun t => t.group == name) := by
    intro name
    rw [List.idxOf, List.findIdx_map]
    rfl
  refine ⟨h.names.nodup, fun name => ?_, ?_, fun g hg => ⟨?_, h.one_le_count hg⟩, ?_⟩
  · rw [h.names.mem_iff, List.mem_map]
  · simpa only [hfirst] using h.names.inOrder
  · rw [h.count g hg, List.count_eq_countP, List.countP_map, List.countP_eq_length_filter]
    rfl
  · rw [h.sum_counts, List.length_map]

/-- Names that begin with an underscore, groups that differ in case, and the group `other` with and
without an underscore. -/
theorem groupCounts_partition_other :
    let tables : List Table := [{ name := "_tmp" }, { name := "Auth_users" },
      { name := "settings" }, { name := "auth_roles" }, { name := "other_costs" },
      { name := "_log" }, { name := "Auth_" }]
    let other : GroupCount := ⟨"other", 2⟩
    groupCounts tables = [⟨"", 2⟩, ⟨"Auth", 2⟩, other, ⟨"auth", 1⟩] ∧
      other ∈ groupCounts tables ∧
      (other.count = (tables.filter fun t => t.group == other.group).length ∧ 1 ≤ other.count) ∧
      ((groupCounts tables).map (·.count)).sum = 7 := by
  intro tables other
  have hgroups : groupCounts tables = [⟨"", 2⟩, ⟨"Auth", 2⟩, other, ⟨"auth", 1⟩] := by
    decide +kernel
  have hother : other ∈ groupCounts tables := by
    rw [hgroups]
    simp
  obtain ⟨-, -, -, hcount, hsum⟩ := groupCounts_partition tables
  exact ⟨hgroups, hother, hcount other hother, hsum⟩

end TableGraph
