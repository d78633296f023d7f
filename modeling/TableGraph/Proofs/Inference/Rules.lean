/-
What the two rules of inference say, and what they offer.

The rules are stated here of a table, a column and an entry of the index, with no loop
around them: `Refers` is the naming rule and `SharesKey` the shared-key rule.  Neither
looks at a mark or at a relationship, so what a visit offers is settled before the run
begins.  `tableOffers` lists the offers of a table in the order in which the run comes
to them, and its membership lemma says that they are the two rules' and no others.

That the naming rule is decided column by column, from the lower-cased name alone, is
why two columns of one table with the same name are treated alike.
-/
import TableGraph.Schema.Inference
import TableGraph.Proofs.Text.Lowercase
import TableGraph.Proofs.Relationships.Covering

namespace TableGraph

open Text

namespace Inference

variable {index : KeyIndex} {t : Table} {c : Column} {e : KeyEntry}

/-! ### The rules -/

/-- The naming rule: the column's name refers to the table of this entry, another than
`t`.  It does so literally, or by the singular of the table's name if it refers to no
table but `t` literally. -/
def Refers (index : KeyIndex) (t : Table) (c : Column) (e : KeyEntry) : Prop :=
  e.key ≠ lowercase t.name ∧
    (lowercase c.name ∈ e.patterns ∨
      ((∀ o ∈ index, o.key ≠ lowercase t.name → lowercase c.name ∉ o.patterns) ∧
        lowercase c.name ∈ e.singularPatterns))

/-- The shared-key rule: the table's key column is called `key`, so is that of the
entry's table, which is another one, and the name is not the generic one. -/
def SharesKey (t : Table) (e : KeyEntry) (key : String) : Prop :=
  e.key ≠ lowercase t.name ∧ t.primaryKey?.map (·.name) = some key ∧
    sameName key e.column ∧ ¬ sameName key genericKey

/-- Columns of the same name refer to the same tables. -/
theorem Refers.of_sameName {c' : Column} (h : Refers index t c e)
    (hname : sameName c.name c'.name) : Refers index t c' e := by
  unfold Refers at h ⊢
  rwa [← lowercase_eq_of_sameName hname]

/-! ### What a visit offers -/

/-- The visited column refers to the table of the entry. -/
def Visit.refersTo (v : Visit) (e : KeyEntry) : Bool := e.key != v.tableKey && v.finds e

/-- The name of the key that the visited table shares with that of the entry. -/
def Visit.sharedKey? (v : Visit) (e : KeyEntry) : Option String :=
  if e.key == v.tableKey then none
  else v.ownKey.filter fun key => sameName key e.column && !sameName key genericKey

/-- What the naming rule offers. -/
def Visit.references (table : String) (v : Visit) (e : KeyEntry) : List Relationship :=
  if v.refersTo e then [⟨table, e.table, .reference v.column e.column⟩] else []

/-- What the shared-key rule offers. -/
def Visit.ties (table : String) (v : Visit) (e : KeyEntry) : List Relationship :=
  (v.sharedKey? e).toList.map fun key => ⟨table, e.table, .sharedKey key⟩

/-- What both rules offer for one column and one entry. -/
def Visit.offers (table : String) (v : Visit) (e : KeyEntry) : List Relationship :=
  v.references table e ++ v.ties table e

/-- What is offered while a column of this table is visited. -/
def columnOffers (index : KeyIndex) (table : String) (v : Visit) : List Relationship :=
  index.flatMap (v.offers table)

/-- What is offered while the columns of a table are visited. -/
def tableOffers (index : KeyIndex) (t : Table) : List Relationship :=
  (visits index t).flatMap (columnOffers index t.name)

/-! ### Visits and rules -/

theorem mem_visits {v : Visit} :
    v ∈ visits index t ↔ ∃ i c, t.columns[i]? = some c ∧ v = visit index t i c := by
  unfold visits
  rw [List.mem_map]
  constructor
  · rintro ⟨⟨c, i⟩, hmem, rfl⟩
    exact ⟨i, c, List.mem_zipIdx_iff_getElem?.mp hmem, rfl⟩
  · rintro ⟨i, c, hc, rfl⟩
    exact ⟨(c, i), List.mem_zipIdx_iff_getElem?.mpr hc, rfl⟩

@[simp] theorem tableKey_visit (i : Nat) : (visit index t i c).tableKey = lowercase t.name := rfl

@[simp] theorem lowered_visit (i : Nat) : (visit index t i c).lowered = lowercase c.name := rfl

@[simp] theorem position_visit (i : Nat) : (visit index t i c).position = i := rfl

@[simp] theorem ownKey_visit (i : Nat) :
    (visit index t i c).ownKey = t.primaryKey?.map (·.name) := rfl

theorem literal_visit (i : Nat) :
    (visit index t i c).literal ↔
      ∃ o ∈ index, o.key ≠ lowercase t.name ∧ lowercase c.name ∈ o.patterns := by
  simp [visit, KeyEntry.matchesLiterally]

/-- A visit finds the tables that the naming rule says. -/
theorem refersTo_visit (he : e ∈ index) (i : Nat) :
    (visit index t i c).refersTo e ↔ Refers index t c e := by
  have hsplit : (visit index t i c).refersTo e ↔
      e.key ≠ lowercase t.name ∧ (visit index t i c).finds e := by
    simp [Visit.refersTo]
  rw [hsplit, Refers]
  refine and_congr_right fun hkey => ?_
  by_cases hliteral : (visit index t i c).literal
  · rw [Visit.finds, if_pos hliteral, KeyEntry.matchesLiterally, List.contains_iff_mem,
      lowered_visit]
    constructor
    · exact Or.inl
    · rintro (h | ⟨hnone, -⟩)
      · exact h
      · obtain ⟨o, ho, hokey, hopattern⟩ := (literal_visit i).mp hliteral
        exact absurd hopattern (hnone o ho hokey)
  · rw [Visit.finds, if_neg hliteral, KeyEntry.matchesSingular, List.contains_iff_mem,
      lowered_visit]
    have hnone : ∀ o ∈ index, o.key ≠ lowercase t.name → lowercase c.name ∉ o.patterns :=
      fun o ho hokey hpattern => hliteral ((literal_visit i).mpr ⟨o, ho, hokey, hpattern⟩)
    constructor
    · exact fun h => Or.inr ⟨hnone, h⟩
    · rintro (h | ⟨-, h⟩)
      · exact absurd h (hnone e he hkey)
      · exact h

theorem sharedKey?_visit (i : Nat) {key : String} :
    (visit index t i c).sharedKey? e = some key ↔ SharesKey t e key := by
  unfold Visit.sharedKey? SharesKey
  by_cases hkey : e.key = lowercase t.name
  · simp [hkey]
  · simp [hkey, Option.filter_eq_some_iff]

/-! ### What a table offers -/

theorem mem_references_visit (he : e ∈ index) (i : Nat) {r : Relationship} :
    r ∈ (visit index t i c).references t.name e ↔
      Refers index t c e ∧ r = ⟨t.name, e.table, .reference c.name e.column⟩ := by
  rw [← refersTo_visit he i]
  unfold Visit.references
  by_cases h : (visit index t i c).refersTo e
  · rw [if_pos h, List.mem_singleton]
    exact ⟨fun hr => ⟨h, hr⟩, fun hr => hr.2⟩
  · rw [if_neg h]
    simp [h]

theorem mem_ties_visit (i : Nat) {r : Relationship} :
    r ∈ (visit index t i c).ties t.name e ↔
      ∃ key, SharesKey t e key ∧ r = ⟨t.name, e.table, .sharedKey key⟩ := by
  simp only [Visit.ties, List.mem_map, Option.mem_toList, sharedKey?_visit]
  exact exists_congr fun key => and_congr_right fun _ => eq_comm

/-- What is offered leads from the visited table to that of the entry. -/
theorem ends_of_mem_offers {table : String} {v : Visit} {r : Relationship}
    (h : r ∈ v.offers table e) : r.source = table ∧ r.target = e.table := by
  rw [Visit.offers, List.mem_append] at h
  rcases h with h | h
  · unfold Visit.references at h
    split at h
    · rw [List.mem_singleton.mp h]; exact ⟨rfl, rfl⟩
    · simp at h
  · obtain ⟨key, -, rfl⟩ := List.mem_map.mp h
    exact ⟨rfl, rfl⟩

theorem mem_columnOffers_visit (i : Nat) {r : Relationship} :
    r ∈ columnOffers index t.name (visit index t i c) ↔ ∃ e ∈ index,
      (Refers index t c e ∧ r = ⟨t.name, e.table, .reference c.name e.column⟩) ∨
        ∃ key, SharesKey t e key ∧ r = ⟨t.name, e.table, .sharedKey key⟩ := by
  unfold columnOffers Visit.offers
  rw [List.mem_flatMap]
  constructor
  · rintro ⟨e, he, hr⟩
    rw [List.mem_append, mem_references_visit he, mem_ties_visit] at hr
    exact ⟨e, he, hr⟩
  · rintro ⟨e, he, hr⟩
    refine ⟨e, he, ?_⟩
    rwa [List.mem_append, mem_references_visit he, mem_ties_visit]

/-- **A table offers what the two rules say, and nothing else.** -/
theorem mem_tableOffers {r : Relationship} :
    r ∈ tableOffers index t ↔ ∃ c ∈ t.columns, ∃ e ∈ index,
      (Refers index t c e ∧ r = ⟨t.name, e.table, .reference c.name e.column⟩) ∨
        ∃ key, SharesKey t e key ∧ r = ⟨t.name, e.table, .sharedKey key⟩ := by
  unfold tableOffers
  rw [List.mem_flatMap]
  constructor
  · rintro ⟨v, hv, hr⟩
    obtain ⟨i, c, hc, rfl⟩ := mem_visits.mp hv
    exact ⟨c, List.mem_of_getElem? hc, (mem_columnOffers_visit i).mp hr⟩
  · rintro ⟨c, hc, hr⟩
    obtain ⟨i, hi⟩ := List.mem_iff_getElem?.mp hc
    exact ⟨visit index t i c, mem_visits.mpr ⟨i, c, hi, rfl⟩, (mem_columnOffers_visit i).mpr hr⟩

theorem source_of_mem_tableOffers {r : Relationship} (h : r ∈ tableOffers index t) :
    r.source = t.name := by
  obtain ⟨c, -, e, -, ⟨-, rfl⟩ | ⟨key, -, rfl⟩⟩ := mem_tableOffers.mp h <;> rfl

/-- The offers of a table, taken apart where it comes to an entry that shares its key for
the first time: at its first column, after what that column offers for the entry. -/
theorem tableOffers_split {before after : KeyIndex} {key : String}
    (hcolumns : t.columns.head? = some c) (hindex : index = before ++ e :: after)
    (hshares : SharesKey t e key) :
    ∃ rest, tableOffers index t
      = before.flatMap ((visit index t 0 c).offers t.name) ++
        ((visit index t 0 c).references t.name e ++
          ⟨t.name, e.table, .sharedKey key⟩ :: rest) := by
  obtain ⟨others, hothers⟩ := List.head?_eq_some_iff.mp hcolumns
  have hvisits : ∃ vs, visits index t = visit index t 0 c :: vs :=
    ⟨_, by rw [visits, hothers, List.zipIdx_cons, List.map_cons]⟩
  have hcolumn : ∀ v : Visit, columnOffers index t.name v
      = before.flatMap (v.offers t.name) ++
        (v.offers t.name e ++ after.flatMap (v.offers t.name)) := by
    intro v
    rw [columnOffers, hindex, List.flatMap_append, List.flatMap_cons]
  have hties : (visit index t 0 c).ties t.name e = [⟨t.name, e.table, .sharedKey key⟩] := by
    rw [Visit.ties, (sharedKey?_visit 0).mpr hshares]
    rfl
  obtain ⟨vs, hvs⟩ := hvisits
  refine ⟨after.flatMap ((visit index t 0 c).offers t.name) ++
    vs.flatMap (columnOffers index t.name), ?_⟩
  rw [tableOffers, hvs, List.flatMap_cons, hcolumn, Visit.offers, hties]
  simp only [List.append_assoc, List.cons_append, List.nil_append]

end Inference

end TableGraph
