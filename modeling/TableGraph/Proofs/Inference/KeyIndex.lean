/-
The index of keys.

A table with a key adds an entry of its own to the index, or it replaces the key column of
an entry that has its name.  What these two keep holds of every entry, whatever tables the
index is built from: an entry is found under the lower-cased name of its own table, and its
patterns are made of that name.  When no two tables have the same name in lower
case nothing is ever replaced, and the index is the list of the keyed tables.
-/
import TableGraph.Schema.KeyIndex
import TableGraph.Proofs.Schema.FirstMet

namespace TableGraph

open Text

namespace KeyIndex

variable {toSingular : String → String}

/-! ### One more table -/

/-- A table with a key replaces the key column of the entry of its name, or adds an entry. -/
theorem add_cases (toSingular : String → String) (index : KeyIndex) (t : Table) :
    (t.primaryKey? = none ∧ add toSingular index t = index) ∨
    (∃ column, t.primaryKey? = some column ∧ ∃ before e after, index = before ++ e :: after ∧
      e.key = lowercase t.name ∧
      add toSingular index t = before ++ { e with column := column.name } :: after) ∨
    (∃ column, t.primaryKey? = some column ∧ lowercase t.name ∉ index.map (·.key) ∧
      add toSingular index t = index ++ [KeyEntry.ofTable toSingular t.name column.name]) := by
  unfold add
  split
  · rename_i hkeyless
    exact Or.inl ⟨hkeyless, rfl⟩
  · rename_i column hcolumn
    split
    · rename_i i hi
      obtain ⟨before, e, after, hsplit, hname, hmodify⟩ :=
        exists_split_of_findIdx? hi fun e => { e with column := column.name }
      exact Or.inr (Or.inl
        ⟨column, hcolumn, before, e, after, hsplit, beq_iff_eq.mp hname, hmodify⟩)
    · rename_i hnone
      refine Or.inr (Or.inr ⟨column, hcolumn, fun hmem => ?_, rfl⟩)
      obtain ⟨e, he, hname⟩ := List.mem_map.mp hmem
      have hdiffers := List.findIdx?_eq_none_iff.mp hnone e he
      simp [hname] at hdiffers

/-! ### What holds of every entry -/

/-- One more table adds an entry of its own, or replaces the key column of one. -/
theorem forall_mem_add {P : KeyEntry → Prop} {index : KeyIndex} {t : Table}
    (h : ∀ e ∈ index, P e)
    (hnew : ∀ column, t.primaryKey? = some column →
      P (KeyEntry.ofTable toSingular t.name column.name))
    (hreplaced : ∀ column, t.primaryKey? = some column →
      ∀ e, P e → e.key = lowercase t.name → P { e with column := column.name }) :
    ∀ e ∈ add toSingular index t, P e := by
  rcases add_cases toSingular index t with ⟨-, hadd⟩ |
    ⟨column, hcolumn, before, e₀, after, rfl, hname, hadd⟩ | ⟨column, hcolumn, -, hadd⟩
  · rwa [hadd]
  · rw [hadd]
    intro e he
    rcases List.mem_append.mp he with hbefore | he
    · exact h e (List.mem_append_left _ hbefore)
    · rcases List.mem_cons.mp he with rfl | hafter
      · exact hreplaced column hcolumn e₀ (h e₀ (by simp)) hname
      · exact h e (List.mem_append_right _ (List.mem_cons_of_mem e₀ hafter))
  · rw [hadd]
    intro e he
    rcases List.mem_append.mp he with he | he
    · exact h e he
    · rw [List.mem_singleton.mp he]
      exact hnew column hcolumn

/-- **What holds of every entry of an index**: it holds of the entry of a table that has a key,
and still does when the key column is replaced by that of another table of the same name. -/
theorem forall_mem_ofTables {P : KeyEntry → Prop} {tables : List Table}
    (hnew : ∀ t ∈ tables, ∀ column, t.primaryKey? = some column →
      P (KeyEntry.ofTable toSingular t.name column.name))
    (hreplaced : ∀ t ∈ tables, ∀ column, t.primaryKey? = some column →
      ∀ e, P e → e.key = lowercase t.name → P { e with column := column.name }) :
    ∀ e ∈ ofTables toSingular tables, P e := by
  have hfold : ∀ (ts : List Table) (index : KeyIndex), ts ⊆ tables → (∀ e ∈ index, P e) →
      ∀ e ∈ ts.foldl (add toSingular) index, P e := by
    intro ts
    induction ts with
    | nil => intro index _ hindex; exact hindex
    | cons t rest ih =>
        intro index hsub hindex
        obtain ⟨ht, hrest⟩ := List.cons_subset.mp hsub
        exact ih _ hrest (forall_mem_add hindex (hnew t ht) (hreplaced t ht))
  exact hfold tables [] (List.Subset.refl _) (by simp)

/-- An entry is found under the lower-cased name of its table. -/
theorem key_eq_of_mem {tables : List Table} {e : KeyEntry}
    (h : e ∈ ofTables toSingular tables) : e.key = lowercase e.table := by
  have hall : ∀ e ∈ ofTables toSingular tables, e.key = lowercase e.table :=
    forall_mem_ofTables (fun _ _ _ _ => rfl) (fun _ _ _ _ _ he _ => he)
  exact hall e h

/-- The patterns of an entry are those of the name that it is found under. -/
theorem patterns_of_mem {tables : List Table} {e : KeyEntry} (h : e ∈ ofTables toSingular tables) :
    e.patterns = columnPatterns e.key ∧
      e.singularPatterns = ((singularStem? toSingular e.key).map columnPatterns).getD [] := by
  have hall : ∀ e ∈ ofTables toSingular tables, e.patterns = columnPatterns e.key ∧
      e.singularPatterns = ((singularStem? toSingular e.key).map columnPatterns).getD [] := by
    apply forall_mem_ofTables
    · intro t _ column _
      simp only [KeyEntry.ofTable, and_self]
    · intro t _ column _ e he _
      exact he
  exact hall e h

/-! ### Tables of different names -/

/-- The entry that a table has when no other one shares its name. -/
def ofTable? (toSingular : String → String) (t : Table) : Option KeyEntry :=
  t.primaryKey?.map fun column => KeyEntry.ofTable toSingular t.name column.name

/-- A table whose name is new to the index comes last. -/
theorem add_of_new {index : KeyIndex} {t : Table} (h : ∀ e ∈ index, e.key ≠ lowercase t.name) :
    add toSingular index t = index ++ (ofTable? toSingular t).toList := by
  rcases add_cases toSingular index t with ⟨hkeyless, hadd⟩ |
    ⟨column, hcolumn, before, e, after, rfl, hname, hadd⟩ | ⟨column, hcolumn, -, hadd⟩
  · simp [hadd, ofTable?, hkeyless]
  · exact absurd hname (h e (by simp))
  · simp [hadd, ofTable?, hcolumn]

theorem foldl_add_of_new (tables : List Table) :
    ∀ index : KeyIndex, tables.Pairwise (fun t u => lowercase t.name ≠ lowercase u.name) →
      (∀ e ∈ index, ∀ t ∈ tables, e.key ≠ lowercase t.name) →
        tables.foldl (add toSingular) index
          = index ++ tables.filterMap (ofTable? toSingular) := by
  induction tables with
  | nil => intro index _ _; simp
  | cons t rest ih =>
      intro index hdistinct hnew
      obtain ⟨hfirst, hrest⟩ := List.pairwise_cons.mp hdistinct
      rw [List.foldl_cons, add_of_new fun e he => hnew e he t (by simp)]
      rw [ih _ hrest]
      · cases h : ofTable? toSingular t <;> simp [h]
      · intro e he u hu
        rcases List.mem_append.mp he with he | he
        · exact hnew e he u (by simp [hu])
        · obtain ⟨column, -, rfl⟩ := Option.map_eq_some_iff.mp (Option.mem_toList.mp he)
          exact hfirst u hu

/-- **The index of tables of different names** lists those that have a key. -/
theorem ofTables_eq_filterMap {tables : List Table}
    (h : tables.Pairwise fun t u => lowercase t.name ≠ lowercase u.name) :
    ofTables toSingular tables = tables.filterMap (ofTable? toSingular) := by
  rw [ofTables, foldl_add_of_new tables [] h (by simp), List.nil_append]

end KeyIndex

end TableGraph
