/-
The arrows between the positions of nodes.

An arrow gives its two ends by ids, and an id stands for the last node that goes by it.  So
a list of arrows is a relation between positions, `Leads`, in which an arrow with an
unknown end and one from a node to itself have no part.  It is stated here without the
search from the back that finds an end, and without the lists of predecessors, which say
the same of each node.
-/
import TableGraph.Graph.Rank
import Mathlib.Data.List.Induction

namespace TableGraph.Layout

open Text

/-- The node at this position is the last that goes by the id. -/
def IsLastNamed (ids : List String) (id : String) (i : Nat) : Prop :=
  (∃ name, ids[i]? = some name ∧ sameName name id) ∧
    ∀ j name, i < j → ids[j]? = some name → ¬ sameName name id

/-- Some arrow leads from the node at the first position to another one at the second. -/
def Leads (ids : List String) (arrows : List Arrow) (u v : Nat) : Prop :=
  u ≠ v ∧ ∃ a ∈ arrows, IsLastNamed ids a.source u ∧ IsLastNamed ids a.target v

variable {ids : List String} {arrows : List Arrow} {id : String} {u v : Nat}

/-! ### Ends -/

theorem IsLastNamed.lt_length (h : IsLastNamed ids id u) : u < ids.length := by
  obtain ⟨⟨name, hname, -⟩, -⟩ := h
  exact (List.getElem?_eq_some_iff.mp hname).1

/-- The search goes from the back. -/
theorem lastIndex?_concat (ids : List String) (name id : String) :
    lastIndex? (ids ++ [name]) id
      = if sameName name id then some ids.length else lastIndex? ids id := by
  cases h : sameName name id <;> simp [lastIndex?, List.zipIdx_append, h]

theorem isLastNamed_concat_of_sameName {name : String} (h : sameName name id) :
    IsLastNamed (ids ++ [name]) id u ↔ u = ids.length := by
  constructor
  · intro hlast
    have hlt := hlast.lt_length
    rw [List.length_append, List.length_singleton] at hlt
    by_contra hne
    exact hlast.2 ids.length name (by omega) (by simp) h
  · rintro rfl
    refine ⟨⟨name, by simp, h⟩, ?_⟩
    intro j name' hj hname'
    have hlt := (List.getElem?_eq_some_iff.mp hname').1
    rw [List.length_append, List.length_singleton] at hlt
    omega

theorem isLastNamed_concat_of_not_sameName {name : String} (h : ¬ sameName name id) :
    IsLastNamed (ids ++ [name]) id u ↔ IsLastNamed ids id u := by
  -- What is called by the id does not stand at the end, so it stands in `ids`.
  have hfound : ∀ j : Nat, (∃ name', (ids ++ [name])[j]? = some name' ∧ sameName name' id) ↔
      ∃ name', ids[j]? = some name' ∧ sameName name' id := by
    intro j
    rcases Nat.lt_trichotomy j ids.length with hlt | heq | hgt
    · rw [List.getElem?_append_left hlt]
    · subst heq
      simp [h]
    · rw [List.getElem?_eq_none (by simp; omega), List.getElem?_eq_none (by omega)]
  have hnone : ∀ ids' : List String, (∀ j name', u < j → ids'[j]? = some name' →
      ¬ sameName name' id) ↔ ∀ j, u < j → ¬ ∃ name', ids'[j]? = some name' ∧ sameName name' id := by
    intro ids'
    simp only [not_exists, not_and]
    exact forall_congr' fun j => ⟨fun h hj name' => h name' hj, fun h name' hj => h hj name'⟩
  simp only [IsLastNamed, hnone, hfound]

theorem lastIndex?_eq_some_iff : lastIndex? ids id = some u ↔ IsLastNamed ids id u := by
  induction ids using List.reverseRecOn with
  | nil => simp [lastIndex?, IsLastNamed]
  | append_singleton ids name ih =>
      rw [lastIndex?_concat]
      by_cases h : sameName name id
      · rw [if_pos h, isLastNamed_concat_of_sameName h, Option.some.injEq, eq_comm]
      · rw [if_neg h, isLastNamed_concat_of_not_sameName h, ih]

theorem ends?_eq_some_iff {a : Arrow} :
    ends? ids a = some (u, v) ↔
      u ≠ v ∧ IsLastNamed ids a.source u ∧ IsLastNamed ids a.target v := by
  rw [← lastIndex?_eq_some_iff, ← lastIndex?_eq_some_iff]
  unfold ends?
  cases lastIndex? ids a.source with
  | none => simp
  | some source =>
      cases lastIndex? ids a.target with
      | none => simp
      | some target =>
          by_cases h : source = target
          · simp only [h, if_true, Option.some.injEq]
            constructor
            · intro hnone; cases hnone
            · rintro ⟨hne, rfl, rfl⟩; exact absurd rfl hne
          · simp only [h, if_false, Option.some.injEq, Prod.mk.injEq]
            constructor
            · rintro ⟨rfl, rfl⟩; exact ⟨h, rfl, rfl⟩
            · rintro ⟨-, hu, hv⟩; exact ⟨hu, hv⟩

/-- The arrows that lead from one node to another are those that have these ends. -/
theorem leads_iff_exists_ends : Leads ids arrows u v ↔ ∃ a ∈ arrows, ends? ids a = some (u, v) := by
  simp only [Leads, ends?_eq_some_iff]
  constructor
  · rintro ⟨hne, a, ha, hu, hv⟩
    exact ⟨a, ha, hne, hu, hv⟩
  · rintro ⟨a, ha, hne, hu, hv⟩
    exact ⟨hne, a, ha, hu, hv⟩

/-! ### Predecessors -/

theorem length_predecessors (ids : List String) (arrows : List Arrow) :
    (predecessors ids arrows).length = ids.length := by
  simp [predecessors]

theorem Leads.lt_length (h : Leads ids arrows u v) : u < ids.length ∧ v < ids.length := by
  obtain ⟨-, a, -, hu, hv⟩ := h
  exact ⟨hu.lt_length, hv.lt_length⟩

/-- The predecessors of a node are those from which an arrow leads to it. -/
theorem mem_predecessors {before : List Nat} (h : (predecessors ids arrows)[v]? = some before) :
    u ∈ before ↔ Leads ids arrows u v := by
  unfold predecessors at h
  rw [List.getElem?_map, Option.map_eq_some_iff] at h
  obtain ⟨node, hnode, rfl⟩ := h
  obtain ⟨hlt, hnode⟩ := List.getElem?_eq_some_iff.mp hnode
  rw [List.getElem_range] at hnode
  subst hnode
  rw [leads_iff_exists_ends]
  simp only [List.mem_eraseDups, List.mem_map, List.mem_filter, List.mem_filterMap, beq_iff_eq]
  constructor
  · rintro ⟨⟨u', v'⟩, ⟨⟨a, ha, hends⟩, rfl⟩, rfl⟩
    exact ⟨a, ha, hends⟩
  · rintro ⟨a, ha, hends⟩
    exact ⟨(u, v), ⟨⟨a, ha, hends⟩, rfl⟩, rfl⟩

end TableGraph.Layout
