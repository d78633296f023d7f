/-
Tables with marks.

Neither the constraints nor inference changes anything of a table but the two marks of
its columns, and a mark is never taken away.  So whatever was done to a table, what is
left of it is `t.marked primary foreign` for the positions that were marked, in this
order or another, once or many times.  Each single mark takes such a table to another
one, and looking a name up in it finds what it finds in `t`: these two facts are what
the stages need, and none of them looks at the columns again.
-/
import TableGraph.Schema.Basic

namespace TableGraph

open Text

namespace Table

/-- The table with the columns at these positions marked. -/
def marked (t : Table) (primary foreign : List Nat) : Table :=
  { t with columns := t.columns.mapIdx fun i c =>
      { c with isPrimary := c.isPrimary || primary.contains i
               isForeign := c.isForeign || foreign.contains i } }

@[simp] theorem name_marked (t : Table) (primary foreign : List Nat) :
    (t.marked primary foreign).name = t.name := rfl

/-- A column of a marked table is the column there was, with its marks. -/
theorem getElem?_columns_marked (t : Table) (primary foreign : List Nat) (i : Nat) :
    (t.marked primary foreign).columns[i]? = t.columns[i]?.map fun c =>
      { c with isPrimary := c.isPrimary || primary.contains i
               isForeign := c.isForeign || foreign.contains i } := by
  simp [marked]

/-- A column of a marked table that is a foreign key was one before, or was marked. -/
theorem exists_of_mem_columns_marked {t : Table} {primary foreign : List Nat} {c : Column}
    (h : c ∈ (t.marked primary foreign).columns) (hforeign : c.isForeign) :
    ∃ i c₀, t.columns[i]? = some c₀ ∧ c₀.name = c.name ∧ (c₀.isForeign ∨ i ∈ foreign) := by
  obtain ⟨i, hi⟩ := List.mem_iff_getElem?.mp h
  rw [getElem?_columns_marked] at hi
  obtain ⟨c₀, hc₀, rfl⟩ := Option.map_eq_some_iff.mp hi
  exact ⟨i, c₀, hc₀, rfl, by simpa using hforeign⟩

@[simp] theorem marked_nil (t : Table) : t.marked [] [] = t := by
  have hcolumns : (t.marked [] []).columns = t.columns := by
    apply List.ext_getElem?
    intro i
    simp [getElem?_columns_marked]
  cases t
  simpa [marked] using hcolumns

/-- Where the marks are is all that matters, not in which order they came. -/
theorem marked_congr (t : Table) (primary : List Nat) {foreign foreign' : List Nat}
    (h : ∀ i, i ∈ foreign ↔ i ∈ foreign') : t.marked primary foreign = t.marked primary foreign' := by
  have hcontains : ∀ i, foreign.contains i = foreign'.contains i := by
    intro i
    rw [Bool.eq_iff_iff, List.contains_iff_mem, List.contains_iff_mem]
    exact h i
  simp only [marked, hcontains]

/-- Marking a table twice is marking it once. -/
theorem marked_marked (t : Table) (primary foreign primary' foreign' : List Nat) :
    (t.marked primary foreign).marked primary' foreign'
      = t.marked (primary ++ primary') (foreign ++ foreign') := by
  have hcolumns : ((t.marked primary foreign).marked primary' foreign').columns
      = (t.marked (primary ++ primary') (foreign ++ foreign')).columns := by
    apply List.ext_getElem?
    intro i
    simp [getElem?_columns_marked, Bool.or_assoc, Function.comp_def]
  simpa [marked] using hcolumns

/-! ### One more mark -/

/-- Changing one element after all of them have been mapped. -/
private theorem modify_mapIdx {α β : Type} (l : List α) (f : Nat → α → β) (i : Nat) (g : β → β) :
    (l.mapIdx f).modify i g = l.mapIdx fun j a => if i = j then g (f j a) else f j a := by
  apply List.ext_getElem?
  intro j
  rw [List.getElem?_modify, List.getElem?_mapIdx, List.getElem?_mapIdx]
  by_cases h : i = j <;> simp [h, Function.comp_def]

theorem markPrimaryAt_marked (t : Table) (primary foreign : List Nat) (i : Nat) :
    (t.marked primary foreign).markPrimaryAt i = t.marked (primary ++ [i]) foreign := by
  simp only [markPrimaryAt, marked, modify_mapIdx]
  congr
  funext j c
  by_cases h : i = j
  · simp [h]
  · simp [h, show ¬ j = i from fun hji => h hji.symm]

theorem markForeignAt_marked (t : Table) (primary foreign : List Nat) (i : Nat) :
    (t.marked primary foreign).markForeignAt i = t.marked primary (foreign ++ [i]) := by
  simp only [markForeignAt, marked, modify_mapIdx]
  congr
  funext j c
  by_cases h : i = j
  · simp [h]
  · simp [h, show ¬ j = i from fun hji => h hji.symm]

/-- Marks do not change which column goes by a name. -/
@[simp] theorem columnIndex?_marked (t : Table) (primary foreign : List Nat) (name : String) :
    (t.marked primary foreign).columnIndex? name = t.columnIndex? name := by
  unfold columnIndex?
  have hnames : (t.marked primary foreign).columns.map (·.name) = t.columns.map (·.name) := by
    apply List.ext_getElem?
    intro i
    simp [getElem?_columns_marked, Function.comp_def]
  have hfind := congrArg (List.findIdx? fun n => sameName n name) hnames
  simpa [List.findIdx?_map, Function.comp_def] using hfind

theorem markPrimary_marked (t : Table) (primary foreign : List Nat) (name : String) :
    (t.marked primary foreign).markPrimary name
      = t.marked (primary ++ (t.columnIndex? name).toList) foreign := by
  unfold markPrimary
  rw [columnIndex?_marked]
  cases t.columnIndex? name with
  | none => simp
  | some i => exact markPrimaryAt_marked t primary foreign i

theorem markForeign_marked (t : Table) (primary foreign : List Nat) (name : String) :
    (t.marked primary foreign).markForeign name
      = t.marked primary (foreign ++ (t.columnIndex? name).toList) := by
  unfold markForeign
  rw [columnIndex?_marked]
  cases t.columnIndex? name with
  | none => simp
  | some i => exact markForeignAt_marked t primary foreign i

/-! ### Looking names up -/

/-- Marks of foreign keys do not change what the key is called. -/
theorem primaryKey?_marked (t : Table) (foreign : List Nat) :
    (t.marked [] foreign).primaryKey?.map (·.name) = t.primaryKey?.map (·.name) := by
  have hcolumns : (t.marked [] foreign).columns.map (fun c => (c.name, c.isPrimary))
      = t.columns.map fun c => (c.name, c.isPrimary) := by
    apply List.ext_getElem?
    intro i
    simp [getElem?_columns_marked, Function.comp_def]
  have hfind := congrArg (fun l => (l.find? (·.2)).map (·.1)) hcolumns
  simpa [primaryKey?, List.find?_map, Function.comp_def] using hfind

/-- The column that a name finds is there and goes by the name. -/
theorem exists_of_columnIndex?_eq_some {t : Table} {name : String} {i : Nat}
    (h : t.columnIndex? name = some i) : ∃ c, t.columns[i]? = some c ∧ sameName c.name name := by
  obtain ⟨hi, hname, -⟩ := List.findIdx?_eq_some_iff_getElem.mp h
  exact ⟨t.columns[i], List.getElem?_eq_getElem hi, hname⟩

end Table

end TableGraph
