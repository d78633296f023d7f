/-
One run of inference is enough.

A run leaves nothing for a second one to do.  What the rules offer depends on the names of
tables and columns and on which columns are keys, and a run changes none of these: it marks
foreign keys, and neither the index nor the rules read such a mark.  So the second run is
offered what the first one was, in the same order, and every offer is covered by something
that the first run left.  Nothing is accepted, so no shared key makes a mark, and the marks
of the naming rule are all there.

No condition is needed on the names or on the relationships that were known before the
first run, because covering an offer is enough for it not to be accepted again.
-/
import TableGraph.Proofs.Inference.Run

namespace TableGraph

open Text

/-- The second table is the first with marks of foreign keys added to it. -/
def Table.GainsMarks (t t' : Table) : Prop := ∃ foreign, t' = t.marked [] foreign

namespace KeyIndex

/-- The index does not read the marks of foreign keys. -/
theorem add_marked (toSingular : String → String) (index : KeyIndex) (t : Table)
    (foreign : List Nat) : add toSingular index (t.marked [] foreign) = add toSingular index t := by
  have hkey := Table.primaryKey?_marked t foreign
  unfold add
  cases h : t.primaryKey? with
  | none =>
      rw [h, Option.map_none, Option.map_eq_none_iff] at hkey
      rw [hkey]
  | some column =>
      rw [h, Option.map_some, Option.map_eq_some_iff] at hkey
      obtain ⟨column', hcolumn', hname⟩ := hkey
      simp only [hcolumn', hname, Table.name_marked]

theorem foldl_add_of_gainsMarks (toSingular : String → String) {ts ts' : List Table}
    (h : List.Forall₂ Table.GainsMarks ts ts') :
    ∀ index : KeyIndex, ts'.foldl (add toSingular) index = ts.foldl (add toSingular) index := by
  induction h with
  | nil => intro index; rfl
  | cons hmarks _ ih =>
      intro index
      obtain ⟨foreign, rfl⟩ := hmarks
      rw [List.foldl_cons, add_marked, ih, List.foldl_cons]

end KeyIndex

namespace Inference

/-! ### What the rules read of a table -/

/-- The visits to a table do not read the marks of foreign keys. -/
theorem visits_marked (index : KeyIndex) (t : Table) (foreign : List Nat) :
    visits index (t.marked [] foreign) = visits index t := by
  apply List.ext_getElem?
  intro i
  simp only [visits, List.getElem?_map, List.getElem?_zipIdx, Table.getElem?_columns_marked,
    Option.map_map]
  congr 1
  funext c
  simp only [Function.comp_apply, visit, Table.name_marked, Table.primaryKey?_marked]

theorem tableOffers_marked (index : KeyIndex) (t : Table) (foreign : List Nat) :
    tableOffers index (t.marked [] foreign) = tableOffers index t := by
  rw [tableOffers, visits_marked, Table.name_marked, tableOffers]

theorem flatMap_tableOffers_of_gainsMarks (index : KeyIndex) {ts ts' : List Table}
    (h : List.Forall₂ Table.GainsMarks ts ts') :
    ts'.flatMap (tableOffers index) = ts.flatMap (tableOffers index) := by
  induction h with
  | nil => rfl
  | cons hmarks _ ih =>
      obtain ⟨foreign, rfl⟩ := hmarks
      rw [List.flatMap_cons, tableOffers_marked, ih, List.flatMap_cons]

theorem tableMarks_marked (index : KeyIndex) (t : Table) (foreign : List Nat) :
    tableMarks index (t.marked [] foreign) = tableMarks index t := by
  rw [tableMarks, trials, visits_marked, tableMarks, trials]

end Inference

namespace Schema

open Inference

/-! ### What a run leaves as it was -/

/-- A run only marks foreign keys, table by table. -/
theorem gainsMarks_infer (toSingular : String → String) (s : Schema) :
    List.Forall₂ Table.GainsMarks s.tables (s.infer toSingular).tables := by
  rw [List.forall₂_iff_get]
  refine ⟨(length_infer_tables toSingular s).symm, fun i hi hi' => ?_⟩
  have htable : (s.infer toSingular).tables[i]? = some _ :=
    infer_table (List.getElem?_eq_getElem hi)
  rw [List.getElem?_eq_getElem hi', Option.some.injEq] at htable
  exact ⟨_, htable⟩

theorem keyIndex_infer (toSingular : String → String) (s : Schema) :
    (s.infer toSingular).keyIndex toSingular = s.keyIndex toSingular :=
  KeyIndex.foldl_add_of_gainsMarks toSingular (gainsMarks_infer toSingular s) []

/-- A second run is offered what the first one was. -/
theorem offers_infer (toSingular : String → String) (s : Schema) :
    (s.infer toSingular).offers toSingular = s.offers toSingular := by
  rw [offers, keyIndex_infer, offers]
  exact flatMap_tableOffers_of_gainsMarks _ (gainsMarks_infer toSingular s)

/-- Whatever the rules offer is covered after a run. -/
theorem exists_covers_infer {toSingular : String → String} {s : Schema} {offer : Relationship}
    (h : offer ∈ s.offers toSingular) :
    ∃ r ∈ (s.infer toSingular).relationships, r.covers offer := by
  rw [infer_relationships]
  exact Relationship.exists_covers_of_mem s.relationships h

/-! ### The second run -/

theorem infer_infer_relationships (toSingular : String → String) (s : Schema) :
    ((s.infer toSingular).infer toSingular).relationships = (s.infer toSingular).relationships := by
  rw [infer_relationships toSingular (s.infer toSingular), offers_infer]
  exact Relationship.acceptAll_of_covered _ fun offer hoffer => exists_covers_infer hoffer

/-- What a table offers in the second run is not accepted. -/
theorem accepted_knownAt_infer {toSingular : String → String} {s : Schema} (i : Nat) {t : Table}
    (ht : t ∈ s.tables) :
    Relationship.accepted ((s.infer toSingular).knownAt toSingular i)
      (tableOffers (s.keyIndex toSingular) t) = [] := by
  apply Relationship.accepted_of_covered
  intro offer hoffer
  obtain ⟨r, hr, hcovers⟩ := exists_covers_infer (List.mem_flatMap.mpr ⟨t, ht, hoffer⟩)
  exact ⟨r, Relationship.mem_acceptAll_of_mem _ hr, hcovers⟩

theorem infer_infer_tables (toSingular : String → String) (s : Schema) :
    ((s.infer toSingular).infer toSingular).tables = (s.infer toSingular).tables := by
  apply List.ext_getElem?
  intro i
  cases h : s.tables[i]? with
  | none =>
      rw [List.getElem?_eq_none_iff] at h
      rw [List.getElem?_eq_none (by simpa only [length_infer_tables] using h),
        List.getElem?_eq_none (by simpa only [length_infer_tables] using h)]
  | some t =>
      have hfirst : (s.infer toSingular).tables[i]? = some _ := infer_table h
      rw [infer_table hfirst, hfirst, keyIndex_infer, tableMarks_marked, tableOffers_marked,
        accepted_knownAt_infer i (List.mem_of_getElem? h), Table.marked_marked]
      congr 1
      -- What the second run marks, the first one marked already.
      apply Table.marked_congr
      intro j
      simp only [List.filterMap_nil, List.append_nil, List.mem_append]
      tauto

end Schema

/--
**Inference reaches a fixed point in one run.**  A second run adds nothing and changes
nothing, from any schema: names may repeat, and relationships may be known twice or lead to
tables that do not exist.
-/
theorem infer_fixedPoint (toSingular : String → String) (s : Schema) :
    (s.infer toSingular).inferredCount toSingular = 0 ∧
      (s.infer toSingular).infer toSingular = s.infer toSingular := by
  have hrelationships := Schema.infer_infer_relationships toSingular s
  refine ⟨?_, Schema.ext (Schema.infer_infer_tables toSingular s) hrelationships⟩
  rw [Schema.inferredCount, hrelationships, Nat.sub_self]

end TableGraph
