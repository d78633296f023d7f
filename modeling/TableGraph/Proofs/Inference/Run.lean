/-
A run of inference, at once.

The run goes through tables, columns and entries, three loops deep, and carries one list
of relationships through all of them.  It marks the tables as it goes, but it never reads
a mark, and the names and keys that it does read do not change.  So the offers of the
rules are known before the run begins, and all that the run decides is which of them are
accepted.

The loops become one fold over pairs of a visit and an entry.  One such step adds a mark
for the naming rule, accepts its offers, and adds a mark for a shared key if that was
accepted; the induction over the pairs then keeps the two kinds of marks apart, so that
the marks of the naming rule do not depend on the relationships at all.
-/
import TableGraph.Proofs.Inference.Rules
import TableGraph.Proofs.Schema.Marks
import Mathlib.Data.List.ProdSigma

namespace TableGraph

open Text

attribute [ext] Schema

namespace Inference

variable {index : KeyIndex} {t : Table}

/-! ### One step -/

/-- The mark that the naming rule makes for a column and an entry. -/
def Visit.mark (v : Visit) (e : KeyEntry) : List Nat := if v.refersTo e then [v.position] else []

/-- The mark that goes with a shared key, once it is accepted. -/
def tieMark (t : Table) (r : Relationship) : Option Nat :=
  if r.isReference then none else t.columnIndex? r.sourceColumn

theorem refer_marked {v : Visit} {e : KeyEntry} (hkey : e.key ≠ v.tableKey) (foreign : List Nat)
    (known : List Relationship) :
    Progress.refer ⟨t.marked [] foreign, known⟩ v e
      = ⟨t.marked [] (foreign ++ v.mark e),
        Relationship.acceptAll known (v.references t.name e)⟩ := by
  unfold Progress.refer Visit.mark Visit.references Visit.refersTo
  by_cases h : v.finds e
  · have hrecord := Relationship.record_eq_accept
      (Relationship.isReference_mk t.name e.table v.column e.column) known
    simp [h, hkey, Table.markForeignAt_marked, hrecord]
  · simp [h]

/-- The shared-key step in terms of what it offers. -/
theorem share_eq {v : Visit} {e : KeyEntry} (hkey : e.key ≠ v.tableKey) (p : Progress) :
    p.share v e = match v.sharedKey? e with
      | none => p
      | some key =>
        if p.relationships.any (·.covers ⟨p.table.name, e.table, .sharedKey key⟩) then p
        else ⟨p.table.markForeign key,
          p.relationships ++ [⟨p.table.name, e.table, .sharedKey key⟩]⟩ := by
  unfold Progress.share Visit.sharedKey?
  rw [if_neg (by simpa using hkey)]
  cases v.ownKey with
  | none => rfl
  | some key =>
      cases hsame : sameName key e.column <;> cases hgeneric : sameName key genericKey <;>
        simp [Option.filter, hsame, hgeneric, Relationship.covers]

theorem share_marked {v : Visit} {e : KeyEntry} (hkey : e.key ≠ v.tableKey) (foreign : List Nat)
    (known : List Relationship) :
    Progress.share ⟨t.marked [] foreign, known⟩ v e
      = ⟨t.marked [] (foreign ++
          (Relationship.accepted known (v.ties t.name e)).filterMap (tieMark t)),
        Relationship.acceptAll known (v.ties t.name e)⟩ := by
  rw [share_eq hkey, Visit.ties]
  cases v.sharedKey? e with
  | none => simp [Relationship.accepted]
  | some key =>
      by_cases hany : known.any (·.covers ⟨t.name, e.table, .sharedKey key⟩)
      · have haccept : Relationship.accept known ⟨t.name, e.table, .sharedKey key⟩ = known :=
          if_pos hany
        simp [Relationship.accepted, haccept, hany]
      · have haccept : Relationship.accept known ⟨t.name, e.table, .sharedKey key⟩
            = known ++ [⟨t.name, e.table, .sharedKey key⟩] := if_neg hany
        simp only [Table.name_marked, hany, Table.markForeign_marked]
        cases hi : t.columnIndex? key <;>
          simp [Relationship.accepted, haccept, tieMark, Relationship.sourceColumn, hi]

/-- **One step of the run.** -/
theorem tryEntry_marked (v : Visit) (e : KeyEntry) (foreign : List Nat)
    (known : List Relationship) :
    Progress.tryEntry v ⟨t.marked [] foreign, known⟩ e
      = ⟨t.marked [] (foreign ++ v.mark e ++
          (Relationship.accepted known (v.offers t.name e)).filterMap (tieMark t)),
        Relationship.acceptAll known (v.offers t.name e)⟩ := by
  unfold Progress.tryEntry Visit.offers
  by_cases hkey : e.key = v.tableKey
  · have hrefers : v.refersTo e = false := by simp [Visit.refersTo, hkey]
    have hshares : v.sharedKey? e = none := by simp [Visit.sharedKey?, hkey]
    simp [hkey, Visit.mark, Visit.references, Visit.ties, hrefers, hshares,
      Relationship.accepted]
  · -- References get no mark of the second kind, whether they are accepted or not.
    have hreferences : (Relationship.accepted known (v.references t.name e)).filterMap (tieMark t)
        = [] := by
      rw [List.filterMap_eq_nil_iff]
      intro r hr
      have hmem := Relationship.mem_offers_of_mem_accepted hr
      unfold Visit.references at hmem
      split at hmem
      · rw [List.mem_singleton.mp hmem]; rfl
      · simp at hmem
    rw [if_neg (by simpa using hkey), refer_marked hkey, share_marked hkey,
      Relationship.accepted_append, List.filterMap_append, hreferences, List.nil_append,
      Relationship.acceptAll_append]

/-! ### The loops over one table -/

/-- The visits to a table, each with every entry, in the order of the run. -/
def trials (index : KeyIndex) (t : Table) : List (Visit × KeyEntry) := visits index t ×ˢ index

/-- The marks that the naming rule makes in a table. -/
def tableMarks (index : KeyIndex) (t : Table) : List Nat :=
  (trials index t).flatMap fun x => x.1.mark x.2

theorem tableOffers_eq_flatMap_trials (index : KeyIndex) (t : Table) :
    tableOffers index t = (trials index t).flatMap fun x => x.1.offers t.name x.2 := by
  simp only [tableOffers, trials, SProd.sprod, List.product, List.flatMap_assoc, List.flatMap_map]
  rfl

theorem inferTable_eq_foldl_trials (known : List Relationship) :
    inferTable index known t
      = (trials index t).foldl (fun p x => Progress.tryEntry x.1 p x.2) ⟨t, known⟩ := by
  simp only [inferTable, trials, SProd.sprod, List.product, List.foldl_flatMap, List.foldl_map]
  rfl

/-- The steps one after the other.  The marks are written with those of the naming rule
first, which is not the order in which they came. -/
theorem foldl_tryEntry_marked (xs : List (Visit × KeyEntry)) :
    ∀ (foreign : List Nat) (known : List Relationship),
      xs.foldl (fun p x => Progress.tryEntry x.1 p x.2) ⟨t.marked [] foreign, known⟩
        = ⟨t.marked [] (foreign ++ xs.flatMap (fun x => x.1.mark x.2) ++
            (Relationship.accepted known (xs.flatMap fun x => x.1.offers t.name x.2)).filterMap
              (tieMark t)),
          Relationship.acceptAll known (xs.flatMap fun x => x.1.offers t.name x.2)⟩ := by
  induction xs with
  | nil => intro foreign known; simp [Relationship.accepted]
  | cons x rest ih =>
      intro foreign known
      rw [List.foldl_cons, tryEntry_marked, ih, List.flatMap_cons, List.flatMap_cons,
        Relationship.acceptAll_append, Relationship.accepted_append, List.filterMap_append]
      congr 1
      apply Table.marked_congr
      intro i
      simp only [List.mem_append]
      tauto

/-- **What a run makes of one table.** -/
theorem inferTable_eq (index : KeyIndex) (known : List Relationship) (t : Table) :
    inferTable index known t
      = ⟨t.marked [] (tableMarks index t ++
          (Relationship.accepted known (tableOffers index t)).filterMap (tieMark t)),
        Relationship.acceptAll known (tableOffers index t)⟩ := by
  have h := foldl_tryEntry_marked (t := t) (trials index t) [] known
  rw [Table.marked_nil, List.nil_append, ← tableOffers_eq_flatMap_trials] at h
  rw [inferTable_eq_foldl_trials, h, tableMarks]

/-- The naming rule marks the columns that refer to some table. -/
theorem mem_tableMarks {i : Nat} :
    i ∈ tableMarks index t ↔ ∃ c, t.columns[i]? = some c ∧ ∃ e ∈ index, Refers index t c e := by
  unfold tableMarks trials
  rw [List.mem_flatMap]
  constructor
  · rintro ⟨⟨v, e⟩, hmem, hi⟩
    obtain ⟨hv, he⟩ := List.mem_product.mp hmem
    obtain ⟨j, c, hc, rfl⟩ := mem_visits.mp hv
    unfold Visit.mark at hi
    split at hi
    · rename_i hrefers
      rw [List.mem_singleton.mp hi]
      exact ⟨c, hc, e, he, (refersTo_visit he j).mp hrefers⟩
    · simp at hi
  · rintro ⟨c, hc, e, he, hrefers⟩
    refine ⟨(visit index t i c, e), List.mem_product.mpr ⟨mem_visits.mpr ⟨i, c, hc, rfl⟩, he⟩, ?_⟩
    have hfound := (refersTo_visit he i).mpr hrefers
    simp [Visit.mark, hfound]

/-! ### The loop over the tables -/

/-- What comes before a place in a list has an earlier place. -/
theorem mem_take_iff_getElem? {α : Type} {l : List α} {n : Nat} {a : α} :
    a ∈ l.take n ↔ ∃ i < n, l[i]? = some a := by
  simp only [List.mem_iff_getElem?, List.getElem?_take, Option.ite_none_right_eq_some]

theorem foldl_addTable_relationships (index : KeyIndex) (ts : List Table) :
    ∀ s : Schema, (ts.foldl (addTable index) s).relationships
      = Relationship.acceptAll s.relationships (ts.flatMap (tableOffers index)) := by
  induction ts with
  | nil => intro s; rfl
  | cons t rest ih =>
      intro s
      rw [List.foldl_cons, ih, List.flatMap_cons, Relationship.acceptAll_append]
      simp [addTable, inferTable_eq]

/-- A run over more tables puts theirs after those it has already. -/
theorem foldl_addTable_tables (index : KeyIndex) (ts : List Table) :
    ∀ s : Schema, ∃ others, (ts.foldl (addTable index) s).tables = s.tables ++ others
      ∧ others.length = ts.length := by
  induction ts with
  | nil => intro s; exact ⟨[], by simp⟩
  | cons t rest ih =>
      intro s
      obtain ⟨others, htables, hlength⟩ := ih (addTable index s t)
      refine ⟨(inferTable index s.relationships t).table :: others, ?_, by simp [hlength]⟩
      rw [List.foldl_cons, htables]
      simp [addTable]

end Inference

namespace Schema

open Inference

variable {toSingular : String → String} {s : Schema}

/-- The index of the tables of a schema. -/
def keyIndex (toSingular : String → String) (s : Schema) : KeyIndex :=
  KeyIndex.ofTables toSingular s.tables

/-- What the rules offer for a schema, in the order of the run. -/
def offers (toSingular : String → String) (s : Schema) : List Relationship :=
  s.tables.flatMap (tableOffers (s.keyIndex toSingular))

/-- What is known when the run comes to the table at this place. -/
def knownAt (toSingular : String → String) (s : Schema) (i : Nat) : List Relationship :=
  Relationship.acceptAll s.relationships
    ((s.tables.take i).flatMap (tableOffers (s.keyIndex toSingular)))

/-- What a run adds to the relationships of a schema. -/
def inferred (toSingular : String → String) (s : Schema) : List Relationship :=
  Relationship.accepted s.relationships (s.offers toSingular)

/-- **A run accepts what the rules offer.** -/
theorem infer_relationships (toSingular : String → String) (s : Schema) :
    (s.infer toSingular).relationships
      = Relationship.acceptAll s.relationships (s.offers toSingular) :=
  foldl_addTable_relationships _ s.tables _

theorem infer_relationships_eq_append (toSingular : String → String) (s : Schema) :
    (s.infer toSingular).relationships = s.relationships ++ s.inferred toSingular := by
  rw [infer_relationships, Relationship.acceptAll_eq_append, inferred]

/-- What is known after a run was known before, or the run added it. -/
theorem mem_infer_relationships {r : Relationship} :
    r ∈ (s.infer toSingular).relationships ↔ r ∈ s.relationships ∨ r ∈ s.inferred toSingular := by
  rw [infer_relationships_eq_append, List.mem_append]

theorem length_infer_tables (toSingular : String → String) (s : Schema) :
    (s.infer toSingular).tables.length = s.tables.length := by
  obtain ⟨others, htables, hlength⟩ := foldl_addTable_tables (s.keyIndex toSingular)
    s.tables { relationships := s.relationships }
  rw [infer, ← keyIndex, htables]
  simp [hlength]

/-- The run up to a place in the list of tables, the table there, and the rest. -/
theorem infer_table_of_getElem? {i : Nat} {t : Table} (h : s.tables[i]? = some t) :
    (s.infer toSingular).tables[i]?
      = some (inferTable (s.keyIndex toSingular) (s.knownAt toSingular i) t).table := by
  obtain ⟨hi, rfl⟩ := List.getElem?_eq_some_iff.mp h
  set index := s.keyIndex toSingular with hindex
  have hsplit : s.tables = s.tables.take i ++ s.tables[i] :: s.tables.drop (i + 1) := by
    rw [← List.drop_eq_getElem_cons hi, List.take_append_drop]
  obtain ⟨before, hbefore, hlength⟩ := foldl_addTable_tables index
    (s.tables.take i) { relationships := s.relationships }
  have hknown : ((s.tables.take i).foldl (addTable index)
      { relationships := s.relationships }).relationships = s.knownAt toSingular i :=
    foldl_addTable_relationships index _ _
  obtain ⟨after, hafter, -⟩ := foldl_addTable_tables index (s.tables.drop (i + 1))
    (addTable index ((s.tables.take i).foldl (addTable index)
      { relationships := s.relationships }) s.tables[i])
  have htables : (s.infer toSingular).tables
      = before ++ (inferTable index (s.knownAt toSingular i) s.tables[i]).table :: after := by
    rw [infer, ← keyIndex, ← hindex]
    conv_lhs => rw [hsplit]
    rw [List.foldl_append, List.foldl_cons, hafter]
    simp [addTable, hbefore, hknown]
  rw [htables, List.getElem?_append_right (by simp [hlength])]
  simp [hlength, Nat.min_eq_left hi.le]

/-- **What a run leaves of a table**: the table, with the marks of both rules. -/
theorem infer_table {i : Nat} {t : Table} (h : s.tables[i]? = some t) :
    (s.infer toSingular).tables[i]?
      = some (t.marked [] (tableMarks (s.keyIndex toSingular) t ++
          (Relationship.accepted (s.knownAt toSingular i)
            (tableOffers (s.keyIndex toSingular) t)).filterMap (tieMark t))) := by
  rw [infer_table_of_getElem? h, inferTable_eq]

/-- The offers of a schema, taken apart at one of its tables. -/
theorem offers_split {i : Nat} {t : Table} (h : s.tables[i]? = some t) :
    s.offers toSingular
      = (s.tables.take i).flatMap (tableOffers (s.keyIndex toSingular)) ++
        (tableOffers (s.keyIndex toSingular) t ++
          (s.tables.drop (i + 1)).flatMap (tableOffers (s.keyIndex toSingular))) := by
  obtain ⟨hi, rfl⟩ := List.getElem?_eq_some_iff.mp h
  rw [← List.flatMap_cons, ← List.flatMap_append, ← List.drop_eq_getElem_cons hi,
    List.take_append_drop, offers]

/-- What the whole run adds is what its tables add. -/
theorem mem_inferred {r : Relationship} :
    r ∈ s.inferred toSingular ↔ ∃ i t, s.tables[i]? = some t ∧
      r ∈ Relationship.accepted (s.knownAt toSingular i)
        (tableOffers (s.keyIndex toSingular) t) :=
  Relationship.mem_accepted_flatMap _ s.tables

end Schema

end TableGraph
