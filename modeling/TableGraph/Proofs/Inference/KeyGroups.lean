/-
The groups of tables that the entries of an index stand for.

An entry is made from two tables.  All of it but the key column is that of the first keyed table
of its name, and the key column is that of the last one.  A table that comes in between leaves no
trace, so what is kept of an entry is said of all tables of its name that were met: `KeysMet`
says which of them the entry is made from, and one more table keeps it.

Tables are of one name when their names have the same lower case.  A table without a key is of no
group at all, whatever its name.
-/
import TableGraph.Proofs.Inference.KeyIndex
import TableGraph.Text.Singular

namespace TableGraph

open Text

/-! ### The tables of a group -/

/-- The tables that have a key. -/
def keyedTables (tables : List Table) : List Table := tables.filter Table.hasPrimaryKey

/-- The tables that have a key and this name in lower case. -/
def keyedTablesOf (tables : List Table) (key : String) : List Table :=
  (keyedTables tables).filter fun t => lowercase t.name == key

section

variable {tables : List Table} {t : Table} {column : Column}

theorem keyedTables_concat (h : t.primaryKey? = some column) :
    keyedTables (tables ++ [t]) = keyedTables tables ++ [t] := by
  simp [keyedTables, Table.hasPrimaryKey, h]

theorem keyedTables_concat_of_keyless (h : t.primaryKey? = none) :
    keyedTables (tables ++ [t]) = keyedTables tables := by
  simp [keyedTables, Table.hasPrimaryKey, h]

theorem keyedTablesOf_concat (h : t.primaryKey? = some column) :
    keyedTablesOf (tables ++ [t]) (lowercase t.name)
      = keyedTablesOf tables (lowercase t.name) ++ [t] := by
  simp [keyedTablesOf, keyedTables_concat h]

theorem keyedTablesOf_concat_of_ne (h : t.primaryKey? = some column) {key : String}
    (hne : lowercase t.name ≠ key) :
    keyedTablesOf (tables ++ [t]) key = keyedTablesOf tables key := by
  simp [keyedTablesOf, keyedTables_concat h, hne]

theorem keyedTablesOf_eq_nil {key : String}
    (h : key ∉ (keyedTables tables).map fun t => lowercase t.name) :
    keyedTablesOf tables key = [] := by
  rw [keyedTablesOf, List.filter_eq_nil_iff]
  intro t ht hname
  exact h (List.mem_map.mpr ⟨t, ht, beq_iff_eq.mp hname⟩)

end

/-! ### The entry of a group -/

namespace KeyEntry

variable {toSingular : String → String} {t : Table} {column : Column}

/-- The entry is that of the first of these tables, with the key column of the last. -/
def StandsFor (toSingular : String → String) (e : KeyEntry) (group : List Table) : Prop :=
  ∃ first last column, group.head? = some first ∧ group.getLast? = some last ∧
    last.primaryKey? = some column ∧ e = ofTable toSingular first.name column.name

theorem standsFor_singleton (h : t.primaryKey? = some column) :
    (ofTable toSingular t.name column.name).StandsFor toSingular [t] :=
  ⟨t, t, column, rfl, rfl, h, rfl⟩

/-- One more table of the group replaces the key column. -/
theorem StandsFor.concat {e : KeyEntry} {group : List Table} (h : e.StandsFor toSingular group)
    (hcolumn : t.primaryKey? = some column) :
    { e with column := column.name }.StandsFor toSingular (group ++ [t]) := by
  obtain ⟨first, last, old, hfirst, -, -, heq⟩ := h
  refine ⟨first, t, column, ?_, List.getLast?_concat, hcolumn, ?_⟩
  · rw [List.head?_append, hfirst, Option.some_or]
  · rw [heq, ofTable, ofTable]

end KeyEntry

/-! ### What the index has of the tables met -/

namespace KeyIndex

variable {toSingular : String → String} {tables : List Table} {index : KeyIndex} {t : Table}

/-- The index has one entry for each name of the keyed tables met so far. -/
structure KeysMet (toSingular : String → String) (tables : List Table) (index : KeyIndex) :
    Prop where
  keys : FirstMet ((keyedTables tables).map fun t => lowercase t.name) (index.map (·.key))
  /-- An entry is made from the tables of its name. -/
  entry : ∀ e ∈ index, e.StandsFor toSingular (keyedTablesOf tables e.key)

namespace KeysMet

theorem nil : KeysMet toSingular [] [] := ⟨.nil, by simp⟩

theorem concat_keyless (h : KeysMet toSingular tables index) (hkeyless : t.primaryKey? = none) :
    KeysMet toSingular (tables ++ [t]) index where
  keys := by
    rw [keyedTables_concat_of_keyless hkeyless]
    exact h.keys
  entry := by
    unfold keyedTablesOf
    rw [keyedTables_concat_of_keyless hkeyless]
    exact h.entry

/-- A keyed table is of no interest to the entries of other names. -/
theorem entry_concat_of_ne (h : KeysMet toSingular tables index) {column : Column}
    (hcolumn : t.primaryKey? = some column) {e : KeyEntry} (he : e ∈ index)
    (hne : lowercase t.name ≠ e.key) :
    e.StandsFor toSingular (keyedTablesOf (tables ++ [t]) e.key) := by
  rw [keyedTablesOf_concat_of_ne hcolumn hne]
  exact h.entry e he

/-- A keyed table whose name was met replaces the key column of the entry of this name. -/
theorem replace {before after : KeyIndex} {e : KeyEntry} {column : Column}
    (h : KeysMet toSingular tables (before ++ e :: after))
    (hcolumn : t.primaryKey? = some column) (hname : e.key = lowercase t.name) :
    KeysMet toSingular (tables ++ [t])
      (before ++ { e with column := column.name } :: after) where
  keys := by
    have hmet : lowercase t.name ∈ (before ++ e :: after).map (·.key) := by simp [hname]
    simpa [keyedTables_concat hcolumn] using h.keys.again hmet
  entry := by
    -- No name has two entries, so the one that is changed is the only one for these tables.
    refine forall_mem_of_changed h.keys.nodup ?_ fun f hf hne =>
      h.entry_concat_of_ne hcolumn hf fun hsame => hne (hsame.symm.trans hname.symm)
    have hgroup : keyedTablesOf (tables ++ [t]) e.key = keyedTablesOf tables e.key ++ [t] := by
      rw [hname, keyedTablesOf_concat hcolumn]
    show KeyEntry.StandsFor toSingular _ (keyedTablesOf (tables ++ [t]) e.key)
    rw [hgroup]
    exact (h.entry e (by simp)).concat hcolumn

/-- A keyed table whose name is new has an entry of its own. -/
theorem append {column : Column} (h : KeysMet toSingular tables index)
    (hcolumn : t.primaryKey? = some column) (hnew : lowercase t.name ∉ index.map (·.key)) :
    KeysMet toSingular (tables ++ [t])
      (index ++ [KeyEntry.ofTable toSingular t.name column.name]) where
  keys := by
    simpa [keyedTables_concat hcolumn, KeyEntry.ofTable] using h.keys.concat hnew
  entry := by
    intro e he
    rcases List.mem_append.mp he with he | he
    · exact h.entry_concat_of_ne hcolumn he fun hsame =>
        hnew (List.mem_map.mpr ⟨e, he, hsame.symm⟩)
    · obtain rfl := List.mem_singleton.mp he
      have hfirst : keyedTablesOf tables (lowercase t.name) = [] :=
        keyedTablesOf_eq_nil fun hmet => hnew ((h.keys.mem_iff _).mpr hmet)
      show KeyEntry.StandsFor toSingular _ (keyedTablesOf (tables ++ [t]) (lowercase t.name))
      rw [keyedTablesOf_concat hcolumn, hfirst]
      exact KeyEntry.standsFor_singleton hcolumn

theorem add (h : KeysMet toSingular tables index) (t : Table) :
    KeysMet toSingular (tables ++ [t]) (add toSingular index t) := by
  rcases add_cases toSingular index t with ⟨hkeyless, hadd⟩ |
    ⟨column, hcolumn, before, e, after, rfl, hname, hadd⟩ | ⟨column, hcolumn, hnew, hadd⟩
  · rw [hadd]
    exact h.concat_keyless hkeyless
  · rw [hadd]
    exact h.replace hcolumn hname
  · rw [hadd]
    exact h.append hcolumn hnew

theorem foldl_add (rest : List Table) :
    ∀ {tables : List Table} {index : KeyIndex}, KeysMet toSingular tables index →
      KeysMet toSingular (tables ++ rest) (rest.foldl (KeyIndex.add toSingular) index) := by
  induction rest with
  | nil =>
      intro tables index h
      rwa [List.append_nil]
  | cons t rest ih =>
      intro tables index h
      have hrest := ih (h.add t)
      rwa [List.append_assoc, List.singleton_append] at hrest

end KeysMet

theorem keysMet_ofTables (toSingular : String → String) (tables : List Table) :
    KeysMet toSingular tables (ofTables toSingular tables) :=
  KeysMet.nil.foldl_add tables

/-! ### Looking an entry up -/

/-- What is found under a name has its lower case for the key. -/
theorem mem_and_key_of_get?_eq_some {name : String} {e : KeyEntry}
    (h : index.get? name = some e) : e ∈ index ∧ e.key = lowercase name := by
  unfold get? at h
  exact ⟨List.mem_of_find?_eq_some h, by simpa using List.find?_some h⟩

/-- Where no two entries have one key, an entry is found by every name with this lower case. -/
theorem get?_eq_some_iff (h : (index.map (·.key)).Nodup) {name : String} {e : KeyEntry} :
    index.get? name = some e ↔ e ∈ index ∧ e.key = lowercase name := by
  refine ⟨mem_and_key_of_get?_eq_some, ?_⟩
  rintro ⟨he, hkey⟩
  cases hfound : index.get? name with
  | none =>
      have hdiffers := List.find?_eq_none.mp hfound e he
      simp [hkey] at hdiffers
  | some f =>
      obtain ⟨hf, hsame⟩ := mem_and_key_of_get?_eq_some hfound
      rw [List.inj_on_of_nodup_map h hf he (hsame.trans hkey.symm)]

theorem get?_eq_none_iff {name : String} :
    index.get? name = none ↔ lowercase name ∉ index.map (·.key) := by
  rw [get?, List.find?_eq_none, List.mem_map]
  simp

end KeyIndex

/--
**The index groups the keyed tables by their names in lower case.**  Each name has one entry, and
the entries stand in the order in which the names are met first.  An entry is that of the first
table of its name, and has the name as this table declares it, but the key column is the one of the
last.  It is what is found under any name of this lower case, and nothing is found under a name that
no keyed table has.
-/
theorem keyIndex_groups (toSingular : String → String) (tables : List Table) :
    let index := KeyIndex.ofTables toSingular tables
    let keys := index.map (·.key)
    keys.Nodup ∧
      (∀ key, key ∈ keys ↔ ∃ t ∈ tables, t.hasPrimaryKey ∧ lowercase t.name = key) ∧
      keys.Pairwise (fun a b =>
        (keyedTables tables).findIdx (fun t => lowercase t.name == a)
          < (keyedTables tables).findIdx (fun t => lowercase t.name == b)) ∧
      (∀ e ∈ index, ∃ first last column,
        (keyedTablesOf tables e.key).head? = some first ∧
        (keyedTablesOf tables e.key).getLast? = some last ∧
        last.primaryKey? = some column ∧
        e.key = lowercase first.name ∧ e.table = first.name ∧ e.column = column.name ∧
        e = KeyEntry.ofTable toSingular first.name column.name) ∧
      (∀ name e, index.get? name = some e ↔ e ∈ index ∧ e.key = lowercase name) ∧
      ∀ name, index.get? name = none ↔
        ∀ t ∈ tables, t.hasPrimaryKey → lowercase t.name ≠ lowercase name := by
  intro index keys
  have h := KeyIndex.keysMet_ofTables toSingular tables
  have hmem : ∀ key, key ∈ keys ↔ ∃ t ∈ tables, t.hasPrimaryKey ∧ lowercase t.name = key := by
    intro key
    rw [h.keys.mem_iff, List.mem_map]
    simp only [keyedTables, List.mem_filter, and_assoc]
  have hfirst : ∀ key, ((keyedTables tables).map fun t => lowercase t.name).idxOf key
      = (keyedTables tables).findIdx (fun t => lowercase t.name == key) := by
    intro key
    rw [List.idxOf, List.findIdx_map]
    rfl
  refine ⟨h.keys.nodup, hmem, ?_, ?_, fun name e => KeyIndex.get?_eq_some_iff h.keys.nodup,
    fun name => ?_⟩
  · simpa only [hfirst] using h.keys.inOrder
  · intro e he
    obtain ⟨first, last, column, hhead, hlast, hcolumn, rfl⟩ := h.entry e he
    exact ⟨first, last, column, hhead, hlast, hcolumn, rfl, rfl, rfl, rfl⟩
  · rw [KeyIndex.get?_eq_none_iff, hmem]
    simp only [not_exists, not_and, ne_eq]

/-- Names that are the same in lower case only, and tables without a key before and between those
of a name. -/
theorem keyIndex_groups_sigma :
    let id : Column := { name := "id", type := "INT", isPrimary := true }
    let code : Column := { name := "code", type := "INT", isPrimary := true }
    let note : Column := { name := "note", type := "TEXT" }
    let tables : List Table := [{ name := "ΟΔΟΣ" }, { name := "Users", columns := [id] },
      { name := "ΟΔΟΣ", columns := [note, id] }, { name := "USERS", columns := [note] },
      { name := "οδος", columns := [note, code, id] }]
    let streets : KeyEntry := KeyEntry.ofTable singular "ΟΔΟΣ" "code"
    let index := KeyIndex.ofTables singular tables
    index = [KeyEntry.ofTable singular "Users" "id", streets] ∧
      streets ∈ index ∧
      (∃ first last column, (keyedTablesOf tables streets.key).head? = some first ∧
        (keyedTablesOf tables streets.key).getLast? = some last ∧
        last.primaryKey? = some column ∧ streets.key = lowercase first.name ∧
        streets.table = first.name ∧ streets.column = column.name ∧
        streets = KeyEntry.ofTable singular first.name column.name) ∧
      index.get? "Οδος" = some streets ∧ index.get? "notes" = none := by
  intro id code note tables streets index
  have hindex : index = [KeyEntry.ofTable singular "Users" "id", streets] := by decide +kernel
  have hstreets : streets ∈ index := by simp [hindex]
  obtain ⟨-, -, -, hentry, hfound, hnone⟩ := keyIndex_groups singular tables
  exact ⟨hindex, hstreets, hentry streets hstreets,
    (hfound "Οδος" streets).mpr ⟨hstreets, by decide +kernel⟩,
    (hnone "notes").mpr (by decide +kernel)⟩

end TableGraph
