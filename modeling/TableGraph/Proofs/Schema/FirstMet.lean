/-
Lists that are looked up and added to.

Groups of tables and keys of tables are gathered in the same way.  A name that is in the list
already changes the entry it is found in, and a new one gets an entry at the end.  Seen from the
list the two cases are a split around the entry that changes, and a longer list.  Seen from the
names that were met there is nothing but the order in which they first occurred: `FirstMet`
says of a list of names that it has this order, and both cases keep it.
-/
import Mathlib.Data.List.Nodup

namespace TableGraph

/-- Where the first entry of some kind is changed, the list is split around it. -/
theorem exists_split_of_findIdx? {α : Type} {p : α → Bool} {l : List α} {i : Nat}
    (h : l.findIdx? p = some i) (f : α → α) :
    ∃ before a after, l = before ++ a :: after ∧ p a ∧ l.modify i f = before ++ f a :: after := by
  obtain ⟨hi, hp, -⟩ := List.findIdx?_eq_some_iff_getElem.mp h
  obtain ⟨before, a, after, rfl, rfl, hmodify⟩ := List.exists_of_modify f hi
  exact ⟨before, a, after, rfl, by simpa using hp, hmodify⟩

/-- Where one entry is changed and no name is listed twice, the entries of other names are all that
is left to look at. -/
theorem forall_mem_of_changed {α : Type} {name : α → String} {before after : List α} {a a' : α}
    {P : α → Prop} (hdistinct : ((before ++ a :: after).map name).Nodup) (hchanged : P a')
    (hothers : ∀ b ∈ before ++ a :: after, name b ≠ name a → P b) :
    ∀ b ∈ before ++ a' :: after, P b := by
  have honly : name a ∉ (before ++ after).map name := by
    rw [List.map_append, List.map_cons, List.nodup_middle, ← List.map_append] at hdistinct
    exact (List.nodup_cons.mp hdistinct).1
  have hother : ∀ b ∈ before ++ after, P b := by
    intro b hb
    have hlisted : b ∈ before ++ a :: after :=
      ((List.sublist_cons_self a after).append_left before).subset hb
    exact hothers b hlisted fun hsame => honly (List.mem_map.mpr ⟨b, hb, hsame⟩)
  intro b hb
  rcases List.mem_append.mp hb with hbefore | hb
  · exact hother b (List.mem_append_left _ hbefore)
  · rcases List.mem_cons.mp hb with rfl | hafter
    · exact hchanged
    · exact hother b (List.mem_append_right _ hafter)

/-- The names are those that were met, in the order in which each was met first. -/
structure FirstMet (met names : List String) : Prop where
  mem_iff : ∀ name, name ∈ names ↔ name ∈ met
  /-- A name that comes before another one was met before it. -/
  inOrder : names.Pairwise fun a b => met.idxOf a < met.idxOf b

namespace FirstMet

variable {met names : List String} {name : String}

theorem nil : FirstMet [] [] := ⟨fun _ => Iff.rfl, List.Pairwise.nil⟩

/-- No name is listed twice. -/
theorem nodup (h : FirstMet met names) : names.Nodup :=
  h.inOrder.imp fun hlt heq => Nat.ne_of_lt hlt (congrArg met.idxOf heq)

/-- The order of the names does not depend on what is met later. -/
theorem inOrder_concat (h : FirstMet met names) (name : String) :
    names.Pairwise fun a b => (met ++ [name]).idxOf a < (met ++ [name]).idxOf b := by
  refine h.inOrder.imp_of_mem fun ha hb hlt => ?_
  rwa [List.idxOf_append_of_mem ((h.mem_iff _).mp ha),
    List.idxOf_append_of_mem ((h.mem_iff _).mp hb)]

/-- A name is met once more. -/
theorem again (h : FirstMet met names) (hname : name ∈ names) : FirstMet (met ++ [name]) names where
  mem_iff := by
    intro other
    rw [List.mem_append, List.mem_singleton, ← h.mem_iff]
    exact ⟨Or.inl, fun hother => hother.elim id fun heq => heq ▸ hname⟩
  inOrder := h.inOrder_concat name

/-- A name is met for the first time. -/
theorem concat (h : FirstMet met names) (hname : name ∉ names) :
    FirstMet (met ++ [name]) (names ++ [name]) where
  mem_iff := by
    intro other
    rw [List.mem_append, List.mem_append, h.mem_iff]
  inOrder := by
    refine List.pairwise_append.mpr ⟨h.inOrder_concat name, List.pairwise_singleton _ _, ?_⟩
    intro a ha b hb
    obtain rfl := List.mem_singleton.mp hb
    have hbefore : a ∈ met := (h.mem_iff a).mp ha
    have hnew : b ∉ met := fun hmet => hname ((h.mem_iff b).mpr hmet)
    rw [List.idxOf_append_of_mem hbefore, List.idxOf_append_of_notMem hnew]
    exact Nat.lt_of_lt_of_le (List.idxOf_lt_length_of_mem hbefore) (Nat.le_add_right _ _)

end FirstMet

end TableGraph
