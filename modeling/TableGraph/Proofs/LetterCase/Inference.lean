/-
Inference in one spelling.

The two rules compare names in two ways.  The keys of the index, the patterns and the
columns that are matched with them are lower-cased first, and folding a name does not
change its lower case.  Everything else is compared by `sameName`.  So an index of folded
tables has the old keys and patterns, a visit to a folded column finds what it found
before, and the offers are the folded offers.  What is accepted follows from the offers, so
folding a schema before inference, or after it, comes to the same.

How a singular is formed is of no consequence: it is formed of a name in lower case.
-/
import TableGraph.Proofs.Inference.Run
import TableGraph.Proofs.LetterCase.Names

namespace TableGraph

open Text

/-! ### The index -/

/-- The entry with the names of its table and of its key column folded.  The rest is in
lower case. -/
def KeyEntry.foldCase (e : KeyEntry) : KeyEntry :=
  { e with table := foldAscii e.table, column := foldAscii e.column }

theorem KeyEntry.ofTable_foldAscii (toSingular : String → String) (table column : String) :
    ofTable toSingular (foldAscii table) (foldAscii column)
      = (ofTable toSingular table column).foldCase := by
  simp [ofTable, foldCase, lowercase_foldAscii]

namespace KeyIndex

/-- An entry is found under the key that it had before. -/
theorem findIdx?_key_foldCase (index : KeyIndex) (key : String) :
    (index.map KeyEntry.foldCase).findIdx? (·.key == key) = index.findIdx? (·.key == key) := by
  rw [List.findIdx?_map]
  rfl

theorem add_foldCase (toSingular : String → String) (index : KeyIndex) (t : Table) :
    add toSingular (index.map KeyEntry.foldCase) t.foldCase
      = (add toSingular index t).map KeyEntry.foldCase := by
  unfold add
  cases h : t.primaryKey? with
  | none => simp [h]
  | some column =>
      simp only [Table.primaryKey?_foldCase, h, Option.map_some, Table.name_foldCase,
        lowercase_foldAscii, findIdx?_key_foldCase]
      cases index.findIdx? (·.key == lowercase t.name) with
      | none =>
          simp only [List.map_append, List.map_singleton, Column.foldCase,
            KeyEntry.ofTable_foldAscii]
      | some i =>
          apply List.ext_getElem?
          intro j
          simp only [List.getElem?_modify, List.getElem?_map]
          cases index[j]? with
          | none => rfl
          | some e => by_cases hij : i = j <;> simp [hij, KeyEntry.foldCase, Column.foldCase]

theorem foldl_add_foldCase (toSingular : String → String) (tables : List Table) :
    ∀ index : KeyIndex,
      (tables.map Table.foldCase).foldl (add toSingular) (index.map KeyEntry.foldCase)
        = (tables.foldl (add toSingular) index).map KeyEntry.foldCase := by
  induction tables with
  | nil => intro index; rfl
  | cons t rest ih =>
      intro index
      rw [List.map_cons, List.foldl_cons, add_foldCase, ih, List.foldl_cons]

end KeyIndex

theorem Schema.keyIndex_foldCase (toSingular : String → String) (s : Schema) :
    s.foldCase.keyIndex toSingular = (s.keyIndex toSingular).map KeyEntry.foldCase :=
  KeyIndex.foldl_add_foldCase toSingular s.tables []

namespace Inference

/-! ### Visits -/

/-- The visit with the names that it offers folded.  The rest is in lower case. -/
def Visit.foldCase (v : Visit) : Visit :=
  { v with ownKey := v.ownKey.map foldAscii, column := foldAscii v.column }

theorem visit_foldCase (index : KeyIndex) (t : Table) (i : Nat) (c : Column) :
    visit (index.map KeyEntry.foldCase) t.foldCase i c.foldCase
      = (visit index t i c).foldCase := by
  simp only [visit, Visit.foldCase, Column.foldCase, Table.name_foldCase,
    Table.primaryKey?_foldCase, lowercase_foldAscii, Option.map_map, List.any_map]
  rfl

theorem visits_foldCase (index : KeyIndex) (t : Table) :
    visits (index.map KeyEntry.foldCase) t.foldCase = (visits index t).map Visit.foldCase := by
  apply List.ext_getElem?
  intro i
  simp only [visits, Table.columns_foldCase, List.getElem?_map, List.getElem?_zipIdx,
    Option.map_map]
  cases t.columns[i]? with
  | none => rfl
  | some c => exact congrArg some (visit_foldCase index t _ c)

/-! ### What a visit offers -/

theorem references_foldCase (table : String) (v : Visit) (e : KeyEntry) :
    v.foldCase.references (foldAscii table) e.foldCase
      = (v.references table e).map Relationship.foldCase := by
  have hrefers : v.foldCase.refersTo e.foldCase = v.refersTo e := rfl
  unfold Visit.references
  rw [hrefers]
  by_cases h : v.refersTo e
  · rw [if_pos h, if_pos h]; rfl
  · rw [if_neg h, if_neg h]; rfl

theorem sharedKey?_foldCase (v : Visit) (e : KeyEntry) :
    v.foldCase.sharedKey? e.foldCase = (v.sharedKey? e).map foldAscii := by
  have hkeys : (e.foldCase.key == v.foldCase.tableKey) = (e.key == v.tableKey) := rfl
  unfold Visit.sharedKey?
  rw [hkeys]
  by_cases h : e.key == v.tableKey
  · rw [if_pos h, if_pos h]; rfl
  · rw [if_neg h, if_neg h]
    simp [Visit.foldCase, KeyEntry.foldCase, Option.filter_map, Function.comp_def]

theorem ties_foldCase (table : String) (v : Visit) (e : KeyEntry) :
    v.foldCase.ties (foldAscii table) e.foldCase
      = (v.ties table e).map Relationship.foldCase := by
  rw [Visit.ties, sharedKey?_foldCase, Visit.ties]
  cases v.sharedKey? e <;> rfl

theorem columnOffers_foldCase (index : KeyIndex) (table : String) (v : Visit) :
    columnOffers (index.map KeyEntry.foldCase) (foldAscii table) v.foldCase
      = (columnOffers index table v).map Relationship.foldCase := by
  simp only [columnOffers, List.flatMap_map, List.map_flatMap, Visit.offers, List.map_append,
    references_foldCase, ties_foldCase]

/-- A folded table offers what it offered before, folded. -/
theorem tableOffers_foldCase (index : KeyIndex) (t : Table) :
    tableOffers (index.map KeyEntry.foldCase) t.foldCase
      = (tableOffers index t).map Relationship.foldCase := by
  simp only [tableOffers, visits_foldCase, List.flatMap_map, List.map_flatMap,
    Table.name_foldCase, columnOffers_foldCase]

/-! ### Marks -/

theorem tableMarks_foldCase (index : KeyIndex) (t : Table) :
    tableMarks (index.map KeyEntry.foldCase) t.foldCase = tableMarks index t := by
  simp only [tableMarks, trials, visits_foldCase, SProd.sprod, List.product, List.flatMap_map,
    List.flatMap_assoc]
  rfl

theorem tieMark_foldCase (t : Table) (r : Relationship) :
    tieMark t.foldCase r.foldCase = tieMark t r := by
  simp [tieMark]

end Inference

namespace Schema

open Inference

/-! ### The run -/

theorem flatMap_tableOffers_foldCase (index : KeyIndex) (tables : List Table) :
    (tables.map Table.foldCase).flatMap (tableOffers (index.map KeyEntry.foldCase))
      = (tables.flatMap (tableOffers index)).map Relationship.foldCase := by
  simp only [List.flatMap_map, List.map_flatMap, tableOffers_foldCase]

theorem knownAt_foldCase (toSingular : String → String) (s : Schema) (i : Nat) :
    s.foldCase.knownAt toSingular i = (s.knownAt toSingular i).map Relationship.foldCase := by
  rw [knownAt, keyIndex_foldCase, knownAt, ← Relationship.acceptAll_foldCase,
    ← flatMap_tableOffers_foldCase, List.map_take]
  rfl

/-- **Inference from a folded schema gives the folded schema.** -/
theorem infer_foldCase (toSingular : String → String) (s : Schema) :
    s.foldCase.infer toSingular = (s.infer toSingular).foldCase := by
  have hrelationships : (s.foldCase.infer toSingular).relationships
      = (s.infer toSingular).relationships.map Relationship.foldCase := by
    rw [infer_relationships, infer_relationships, ← Relationship.acceptAll_foldCase, offers,
      keyIndex_foldCase, offers, ← flatMap_tableOffers_foldCase]
    rfl
  have htables : (s.foldCase.infer toSingular).tables
      = (s.infer toSingular).tables.map Table.foldCase := by
    apply List.ext_getElem?
    intro i
    cases h : s.tables[i]? with
    | none =>
        have hlength := List.getElem?_eq_none_iff.mp h
        rw [List.getElem?_eq_none, List.getElem?_eq_none]
        · simpa [length_infer_tables] using hlength
        · simpa [length_infer_tables, foldCase] using hlength
    | some t =>
        have hfolded : s.foldCase.tables[i]? = some t.foldCase := by
          simp [foldCase, h]
        rw [infer_table hfolded, List.getElem?_map, infer_table h, Option.map_some,
          Table.foldCase_marked, keyIndex_foldCase, tableMarks_foldCase, tableOffers_foldCase,
          knownAt_foldCase, Relationship.accepted_foldCase, List.filterMap_map]
        simp only [Function.comp_def, tieMark_foldCase]
  exact Schema.ext htables hrelationships

end Schema

end TableGraph
