/-
Schemas in which names say which.

No two tables have the same name in lower case, and no table has two columns of one
name.  Then a name stands for one table, an entry of the index for one keyed table, and
a name of a column for one column, so what is said of names may be said of the things
themselves.  The first condition alone is enough for all that is said of tables and of
entries.
-/
import TableGraph.Proofs.Inference.KeyIndex
import TableGraph.Proofs.Inference.Run

namespace TableGraph

open Text

/-- Tables are told apart by their names in lower case. -/
def Schema.TablesDistinct (s : Schema) : Prop :=
  s.tables.Pairwise fun t u => lowercase t.name ≠ lowercase u.name

instance (s : Schema) : Decidable s.TablesDistinct :=
  inferInstanceAs (Decidable (List.Pairwise _ _))

/-- Tables are told apart by their names in lower case, and the columns of each table by
their names. -/
structure Schema.NamesDistinct (s : Schema) : Prop where
  tables : s.tables.Pairwise fun t u => lowercase t.name ≠ lowercase u.name
  columns : ∀ t ∈ s.tables, t.columns.Pairwise fun c d => ¬ sameName c.name d.name

theorem Table.mem_columns_of_primaryKey? {t : Table} {k : Column} (h : t.primaryKey? = some k) :
    k ∈ t.columns :=
  List.mem_of_find?_eq_some h

namespace Schema

variable {toSingular : String → String} {s : Schema} {t u : Table}

/-! ### Tables -/

namespace TablesDistinct

theorem lowercase_ne (h : s.TablesDistinct) {i j : Nat} (hij : i < j)
    (hi : s.tables[i]? = some t) (hj : s.tables[j]? = some u) :
    lowercase t.name ≠ lowercase u.name := by
  obtain ⟨hilt, rfl⟩ := List.getElem?_eq_some_iff.mp hi
  obtain ⟨hjlt, rfl⟩ := List.getElem?_eq_some_iff.mp hj
  exact List.pairwise_iff_getElem.mp h i j hilt hjlt hij

theorem position_eq (h : s.TablesDistinct) {i j : Nat} (hi : s.tables[i]? = some t)
    (hj : s.tables[j]? = some u) (hsame : sameName t.name u.name) : i = j := by
  have hlower := lowercase_eq_of_sameName hsame
  rcases Nat.lt_trichotomy i j with hlt | heq | hgt
  · exact absurd hlower (h.lowercase_ne hlt hi hj)
  · exact heq
  · exact absurd hlower.symm (h.lowercase_ne hgt hj hi)

theorem table_eq (h : s.TablesDistinct) (ht : t ∈ s.tables) (hu : u ∈ s.tables)
    (hsame : sameName t.name u.name) : t = u := by
  obtain ⟨i, hi⟩ := List.mem_iff_getElem?.mp ht
  obtain ⟨j, hj⟩ := List.mem_iff_getElem?.mp hu
  obtain rfl := h.position_eq hi hj hsame
  exact Option.some.inj (hi.symm.trans hj)

/-! ### Entries -/

theorem keyIndex_eq (h : s.TablesDistinct) (toSingular : String → String) :
    s.keyIndex toSingular = s.tables.filterMap (KeyIndex.ofTable? toSingular) :=
  KeyIndex.ofTables_eq_filterMap h

theorem mem_keyIndex (h : s.TablesDistinct) {e : KeyEntry} :
    e ∈ s.keyIndex toSingular ↔ ∃ t ∈ s.tables, ∃ k, t.primaryKey? = some k ∧
      e = KeyEntry.ofTable toSingular t.name k.name := by
  rw [h.keyIndex_eq, List.mem_filterMap]
  refine exists_congr fun t => and_congr_right fun _ => ?_
  rw [KeyIndex.ofTable?, Option.map_eq_some_iff]
  exact exists_congr fun k => and_congr_right fun _ => eq_comm

/-- Different entries stand for different tables. -/
theorem pairwise_keyIndex (h : s.TablesDistinct) (toSingular : String → String) :
    (s.keyIndex toSingular).Pairwise fun e o => ¬ sameName e.table o.table := by
  rw [h.keyIndex_eq, List.pairwise_filterMap]
  refine List.Pairwise.imp (fun {t u} hlower e he o ho hsame => ?_) h
  obtain ⟨k, -, rfl⟩ := Option.map_eq_some_iff.mp he
  obtain ⟨l, -, rfl⟩ := Option.map_eq_some_iff.mp ho
  exact hlower (lowercase_eq_of_sameName hsame)

/-- The entry under the name of a keyed table is the entry of that table. -/
theorem entry_eq (h : s.TablesDistinct) {e : KeyEntry} {k : Column}
    (he : e ∈ s.keyIndex toSingular) (ht : t ∈ s.tables) (hk : t.primaryKey? = some k)
    (hsame : sameName e.table t.name) : e = KeyEntry.ofTable toSingular t.name k.name := by
  obtain ⟨u, hu, l, hl, rfl⟩ := h.mem_keyIndex.mp he
  obtain rfl := h.table_eq hu ht hsame
  obtain rfl := Option.some.inj (hl.symm.trans hk)
  rfl

end TablesDistinct

/-! ### Columns -/

namespace NamesDistinct

theorem tablesDistinct (h : s.NamesDistinct) : s.TablesDistinct := h.tables

theorem column_eq (h : s.NamesDistinct) (ht : t ∈ s.tables) {c d : Column} (hc : c ∈ t.columns)
    (hd : d ∈ t.columns) (hsame : sameName c.name d.name) : c = d :=
  eq_of_sameName (h.columns t ht) hc hd hsame

end NamesDistinct

end Schema

end TableGraph
