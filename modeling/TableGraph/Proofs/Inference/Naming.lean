/-
The naming rule is sound and complete.

Complete: a column that refers to a table, as `Refers` has it, is marked and leads to
some reference to a column of that table's key name.  Sound: a reference that was added
is one of these, and the first in the index that could be: a later entry with a key
column of the same name finds its reference covered, because the test for a known
reference does not look at the table it leads to.

For the second part the run is taken apart where the reference was accepted, into the
table, the visit and the entry that offered it.  The entries before it have been offered
in the same visit, so whatever they offered is covered by then.
-/
import TableGraph.Proofs.Inference.KeyIndex
import TableGraph.Proofs.Inference.Run
import TableGraph.Text.Singular

namespace TableGraph

open Text

namespace Inference

/-- The entry is the first that the column refers to among those whose key column has
this name. -/
def RefersFirst (index : KeyIndex) (t : Table) (c : Column) (e : KeyEntry) : Prop :=
  ∃ k, index[k]? = some e ∧ Refers index t c e ∧
    ∀ o ∈ index.take k, Refers index t c o → ¬ sameName o.column e.column

variable {index : KeyIndex} {t : Table} {c : Column} {e : KeyEntry}

theorem RefersFirst.mem (h : RefersFirst index t c e) : e ∈ index := by
  obtain ⟨k, hk, -, -⟩ := h
  exact List.mem_of_getElem? hk

theorem RefersFirst.refers (h : RefersFirst index t c e) : Refers index t c e := by
  obtain ⟨k, -, hrefers, -⟩ := h
  exact hrefers

/-- Among the entries with a key column of one name only one is the first. -/
theorem RefersFirst.unique {o : KeyEntry} (he : RefersFirst index t c e)
    (ho : RefersFirst index t c o) (hsame : sameName e.column o.column) : e = o := by
  obtain ⟨k, hk, herefers, hefirst⟩ := he
  obtain ⟨l, hl, horefers, hofirst⟩ := ho
  rcases Nat.lt_trichotomy k l with hlt | heq | hgt
  · exact absurd hsame (hofirst e (mem_take_iff_getElem?.mpr ⟨k, hlt, hk⟩) herefers)
  · subst heq
    exact Option.some.inj (hk.symm.trans hl)
  · rw [sameName_comm] at hsame
    exact absurd hsame (hefirst o (mem_take_iff_getElem?.mpr ⟨l, hgt, hl⟩) horefers)

/-- A reference accepted for an entry was not covered by what earlier entries offered. -/
theorem refersFirst_of_mem_accepted {known : List Relationship} {i k : Nat} {r : Relationship}
    (he : index[k]? = some e) (hreference : r.isReference)
    (hr : r ∈ Relationship.accepted
      (Relationship.acceptAll known ((index.take k).flatMap ((visit index t i c).offers t.name)))
      ((visit index t i c).offers t.name e)) :
    RefersFirst index t c e ∧ r = ⟨t.name, e.table, .reference c.name e.column⟩ := by
  have hmem := List.mem_of_getElem? he
  have hoffered := Relationship.mem_offers_of_mem_accepted hr
  rw [Visit.offers, List.mem_append, mem_references_visit hmem, mem_ties_visit] at hoffered
  rcases hoffered with ⟨hrefers, rfl⟩ | ⟨key, -, rfl⟩
  · refine ⟨⟨k, he, hrefers, ?_⟩, rfl⟩
    intro o ho horefers hsame
    have hoindex : o ∈ index := List.mem_of_mem_take ho
    have hearlier : ⟨t.name, o.table, .reference c.name o.column⟩
        ∈ (index.take k).flatMap ((visit index t i c).offers t.name) := by
      refine List.mem_flatMap.mpr ⟨o, ho, ?_⟩
      rw [Visit.offers, List.mem_append, mem_references_visit hoindex]
      exact Or.inl ⟨horefers, rfl⟩
    obtain ⟨q, hq, hcovers⟩ := Relationship.exists_covers_of_mem known hearlier
    have hoffers : Relationship.covers ⟨t.name, o.table, .reference c.name o.column⟩
        ⟨t.name, e.table, .reference c.name e.column⟩ := by
      rw [Relationship.covers_of_isReference rfl, Relationship.sameReference_iff]
      exact ⟨rfl, sameName_refl _, sameName_refl _, hsame⟩
    exact Relationship.not_covers_of_mem_accepted hr hq
      (Relationship.covers_trans hcovers hoffers rfl)
  · exact absurd hreference (by simp)

/-- A reference that was accepted for a table follows the naming rule. -/
theorem exists_refersFirst_of_mem_accepted {known : List Relationship} {r : Relationship}
    (hreference : r.isReference) (hr : r ∈ Relationship.accepted known (tableOffers index t)) :
    ∃ c ∈ t.columns, ∃ e ∈ index, RefersFirst index t c e ∧
      r = ⟨t.name, e.table, .reference c.name e.column⟩ := by
  obtain ⟨j, v, hv, hr⟩ := (Relationship.mem_accepted_flatMap _ _).mp hr
  obtain ⟨i, c, hc, rfl⟩ := mem_visits.mp (List.mem_of_getElem? hv)
  obtain ⟨k, e, he, hr⟩ := (Relationship.mem_accepted_flatMap _ _).mp hr
  obtain ⟨hfirst, hshape⟩ := refersFirst_of_mem_accepted he hreference hr
  exact ⟨c, List.mem_of_getElem? hc, e, List.mem_of_getElem? he, hfirst, hshape⟩

end Inference

namespace Schema

open Inference

variable {toSingular : String → String} {s : Schema}

/-- **The references that a run adds.** -/
theorem exists_refersFirst_of_mem_inferred {r : Relationship} (hr : r ∈ s.inferred toSingular)
    (hreference : r.isReference) :
    ∃ t ∈ s.tables, ∃ c ∈ t.columns, ∃ e ∈ s.keyIndex toSingular,
      RefersFirst (s.keyIndex toSingular) t c e ∧
        r = ⟨t.name, e.table, .reference c.name e.column⟩ := by
  obtain ⟨i, t, hi, hr⟩ := mem_inferred.mp hr
  exact ⟨t, List.mem_of_getElem? hi, exists_refersFirst_of_mem_accepted hreference hr⟩

/-- What the naming rule offers ends up as some reference. -/
theorem exists_sameReference_of_refers {t : Table} {c : Column} {e : KeyEntry}
    (ht : t ∈ s.tables) (hc : c ∈ t.columns) (he : e ∈ s.keyIndex toSingular)
    (hrefers : Refers (s.keyIndex toSingular) t c e) :
    ∃ r ∈ (s.infer toSingular).relationships, r.sameReference t.name c.name e.column := by
  have hoffer : ⟨t.name, e.table, .reference c.name e.column⟩ ∈ s.offers toSingular :=
    List.mem_flatMap.mpr ⟨t, ht, mem_tableOffers.mpr ⟨c, hc, e, he, Or.inl ⟨hrefers, rfl⟩⟩⟩
  rw [infer_relationships]
  exact Relationship.exists_covers_of_mem s.relationships hoffer

/-- A column that refers to some table is marked in the end. -/
theorem infer_column_of_refers {i j : Nat} {t : Table} {c : Column} {e : KeyEntry}
    (hi : s.tables[i]? = some t) (hj : t.columns[j]? = some c) (he : e ∈ s.keyIndex toSingular)
    (hrefers : Refers (s.keyIndex toSingular) t c e) :
    ∃ t', (s.infer toSingular).tables[i]? = some t' ∧ t'.name = t.name ∧
      t'.columns[j]? = some { c with isForeign := true } := by
  refine ⟨_, infer_table hi, rfl, ?_⟩
  have hmark : j ∈ tableMarks (s.keyIndex toSingular) t :=
    mem_tableMarks.mpr ⟨c, hj, e, he, hrefers⟩
  rw [Table.getElem?_columns_marked, hj]
  simp [hmark]

end Schema

open Inference

/--
**The naming rule is sound and complete.**  Every column that refers to a table is marked
and begins a reference to a column of that table's key name.  Every reference that a run
adds leads from a column to the first table of the index that the column refers to by a
key column of this name, so never to a table with the lower-cased name of its own.
-/
theorem namingRule_sound_complete (toSingular : String → String) (s : Schema) :
    (∀ (i j : Nat) (t : Table) (c : Column) (e : KeyEntry), s.tables[i]? = some t →
      t.columns[j]? = some c → e ∈ s.keyIndex toSingular →
        Refers (s.keyIndex toSingular) t c e →
          (∃ t', (s.infer toSingular).tables[i]? = some t' ∧ t'.name = t.name ∧
            t'.columns[j]? = some { c with isForeign := true }) ∧
          ∃ r ∈ (s.infer toSingular).relationships,
            r.sameReference t.name c.name e.column) ∧
    ∃ added, (s.infer toSingular).relationships = s.relationships ++ added ∧
      ∀ r ∈ added, r.kind = .reference →
        (∃ t ∈ s.tables, ∃ c ∈ t.columns, ∃ e ∈ s.keyIndex toSingular,
          RefersFirst (s.keyIndex toSingular) t c e ∧
            r = ⟨t.name, e.table, .reference c.name e.column⟩) ∧
        lowercase r.target ≠ lowercase r.source := by
  refine ⟨?_, s.inferred toSingular, Schema.infer_relationships_eq_append toSingular s, ?_⟩
  · intro i j t c e hi hj he hrefers
    exact ⟨Schema.infer_column_of_refers hi hj he hrefers,
      Schema.exists_sameReference_of_refers (List.mem_of_getElem? hi) (List.mem_of_getElem? hj)
        he hrefers⟩
  · intro r hr hkind
    obtain ⟨t, ht, c, hc, e, he, hfirst, rfl⟩ := Schema.exists_refersFirst_of_mem_inferred hr
      (Relationship.kind_eq_reference.mp hkind)
    refine ⟨⟨t, ht, c, hc, e, he, hfirst, rfl⟩, ?_⟩
    show lowercase e.table ≠ lowercase t.name
    rw [← KeyIndex.key_eq_of_mem he]
    exact hfirst.refers.1

/-- No table is called `user`, so the column refers to `users`. -/
theorem namingRule_sound_complete_singular :
    let column : Column := { name := "User_ID", type := "INT" }
    let orders : Table :=
      { name := "orders", columns := [{ name := "id", type := "INT", isPrimary := true }, column] }
    let users : Table :=
      { name := "users", columns := [{ name := "id", type := "INT", isPrimary := true }] }
    let s : Schema := { tables := [orders, users] }
    (∃ t', (s.infer singular).tables[0]? = some t' ∧ t'.name = orders.name ∧
        t'.columns[1]? = some { column with isForeign := true }) ∧
      ∃ r ∈ (s.infer singular).relationships, r.sameReference orders.name column.name "id" := by
  intro column orders users s
  have hentry : KeyEntry.ofTable singular "users" "id" ∈ s.keyIndex singular := by decide +kernel
  have hrefers : Refers (s.keyIndex singular) orders column
      (KeyEntry.ofTable singular "users" "id") :=
    ⟨by decide, Or.inr ⟨by decide +kernel, by decide +kernel⟩⟩
  obtain ⟨hmark, hreference⟩ := (namingRule_sound_complete singular s).1 0 1 orders column
    (KeyEntry.ofTable singular "users" "id") rfl rfl hentry hrefers
  exact ⟨hmark, hreference⟩

end TableGraph
