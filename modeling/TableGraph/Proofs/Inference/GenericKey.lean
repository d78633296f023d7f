/-
The generic key name is never claimed.

Nearly every table has a column called `id`, and the name says nothing about any other
table.  Three ways lead to it all the same.  A pattern of the naming rule may be that name,
a pattern built from a singular may be, and two tables may be keyed by it.

The first asks for a table whose name is `id` or empty, because a pattern is the table's name
or has more letters at its end.  The second never happens, whatever the singulars are.  What
forms a singular looks at the last word of the name alone, and refuses one that is `id` or too
short; but the pattern is the whole name with the singular at its end.  If that is `id`, what
stands before the singular is empty, because the singular takes up two bytes on its own.  The
third is refused for `id` in every spelling, and here the two comparisons of names must agree.
They do, because a text that is `id` in lower case is a spelling of it in ASCII letters.
-/
import TableGraph.Proofs.Inference.Extension

namespace TableGraph

open Text

/-! ### Names that are the generic key -/

/-- A name is the generic key in lower case just if it is a spelling of it. -/
theorem lowercase_eq_genericKey_iff {name : String} :
    lowercase name = genericKey ↔ sameName name genericKey := by
  constructor
  · intro h
    have hplain : ∀ d ∈ genericKey.toList, isPlainAscii d := by simp [genericKey, isPlainAscii]
    exact sameName_of_lowercase_eq hplain h
  · intro h
    rw [lowercase_eq_of_sameName h]
    decide +kernel

/-- Only the empty stem and the generic key itself have the generic key for a pattern. -/
theorem genericKey_mem_columnPatterns {stem : String} :
    genericKey ∈ columnPatterns stem ↔ stem = "" ∨ stem = genericKey := by
  have hlong : genericKey ≠ stem ++ "_id" := by
    intro h
    have hlength := congrArg String.length h
    rw [String.length_append] at hlength
    have htwo : genericKey.length = 2 := by decide
    have hthree : "_id".length = 3 := by decide
    omega
  have hshort : genericKey = stem ++ "id" ↔ stem = "" := by
    constructor
    · intro h
      have hlength := congrArg String.length h
      rw [String.length_append] at hlength
      have htwo : genericKey.length = 2 := by decide
      have hsame : "id".length = 2 := by decide
      exact String.length_eq_zero_iff.mp (by omega)
    · rintro rfl
      decide
  unfold columnPatterns
  simp only [List.mem_cons, List.not_mem_nil, or_false, hlong, hshort, false_or]
  exact or_congr_right eq_comm

/-- A stem in the singular is neither empty nor the generic key, whatever singulars are. -/
theorem ne_of_singularStem?_eq_some {toSingular : String → String} {name stem : String}
    (h : singularStem? toSingular name = some stem) : stem ≠ "" ∧ stem ≠ genericKey := by
  unfold singularStem? at h
  simp only [Option.ite_none_left_eq_some, Option.some.injEq, Bool.or_eq_true, not_or,
    decide_eq_true_eq, beq_iff_eq, Nat.not_lt] at h
  obtain ⟨-, ⟨⟨hbytes, -⟩, hkey⟩, rfl⟩ := h
  set before := (splitLastWord name).1
  set found := toSingular (splitLastWord name).2
  constructor
  · intro hempty
    have hsize := congrArg String.utf8ByteSize hempty
    rw [String.utf8ByteSize_append, String.utf8ByteSize_empty] at hsize
    omega
  · -- The singular takes up both bytes, so there is nothing before it.
    intro hgeneric
    have hsize := congrArg String.utf8ByteSize hgeneric
    have htwo : genericKey.utf8ByteSize = 2 := by decide
    rw [String.utf8ByteSize_append, htwo] at hsize
    have hbefore : before = "" := String.utf8ByteSize_eq_zero_iff.mp (by omega)
    rw [hbefore, String.empty_append] at hgeneric
    exact hkey hgeneric

/-! ### What the rules make of a column with that name -/

namespace Inference

variable {toSingular : String → String} {tables : List Table} {t : Table} {c : Column}
  {e : KeyEntry} {r : Relationship}

theorem genericKey_not_mem_singularPatterns (he : e ∈ KeyIndex.ofTables toSingular tables) :
    genericKey ∉ e.singularPatterns := by
  rw [(KeyIndex.patterns_of_mem he).2]
  cases hstem : singularStem? toSingular e.key with
  | none => simp
  | some stem =>
      obtain ⟨hempty, hgeneric⟩ := ne_of_singularStem?_eq_some hstem
      rw [Option.map_some, Option.getD_some, genericKey_mem_columnPatterns]
      exact not_or.mpr ⟨hempty, hgeneric⟩

/-- A column with the generic name refers to the other tables that have this name, or none. -/
theorem refers_iff_of_generic (he : e ∈ KeyIndex.ofTables toSingular tables)
    (hc : lowercase c.name = genericKey) :
    Refers (KeyIndex.ofTables toSingular tables) t c e
      ↔ e.key ≠ lowercase t.name ∧ (e.key = "" ∨ e.key = genericKey) := by
  have hsingular := genericKey_not_mem_singularPatterns he
  rw [Refers, hc, (KeyIndex.patterns_of_mem he).1, genericKey_mem_columnPatterns]
  simp [hsingular]

section

variable (hnames : ∀ u ∈ tables, u.hasPrimaryKey →
  lowercase u.name ≠ genericKey ∧ lowercase u.name ≠ "")

include hnames

theorem not_refers_of_generic (he : e ∈ KeyIndex.ofTables toSingular tables)
    (hc : lowercase c.name = genericKey) :
    ¬ Refers (KeyIndex.ofTables toSingular tables) t c e := by
  obtain ⟨owner, howner, hlower, key, hkey, -⟩ := (KeyIndex.comesFrom_of_mem e he).column
  have hkeyed : owner.hasPrimaryKey := by rw [Table.hasPrimaryKey, hkey]; rfl
  obtain ⟨hgeneric, hempty⟩ := hnames owner howner hkeyed
  rw [refers_iff_of_generic he hc, ← hlower]
  exact fun h => h.2.elim hempty hgeneric

/-- Nothing that a table offers starts from a column with the generic name. -/
theorem sourceColumn_ne_generic_of_mem_tableOffers
    (hr : r ∈ tableOffers (KeyIndex.ofTables toSingular tables) t) :
    lowercase r.sourceColumn ≠ genericKey := by
  obtain ⟨c, -, e, he, ⟨hrefers, rfl⟩ | ⟨key, ⟨-, -, -, hkey⟩, rfl⟩⟩ := mem_tableOffers.mp hr
  · exact fun hc => not_refers_of_generic hnames he hc hrefers
  · exact fun hgeneric => hkey (lowercase_eq_genericKey_iff.mp hgeneric)

variable (toSingular) in
/-- No mark is made on a column with the generic name, by either rule. -/
theorem not_mem_marks_of_generic (known : List Relationship) {i : Nat}
    (hc : t.columns[i]? = some c) (hgeneric : lowercase c.name = genericKey) :
    i ∉ tableMarks (KeyIndex.ofTables toSingular tables) t ++
      (Relationship.accepted known
        (tableOffers (KeyIndex.ofTables toSingular tables) t)).filterMap (tieMark t) := by
  rw [List.mem_append, not_or]
  constructor
  · intro hmark
    obtain ⟨c', hc', e, he, hrefers⟩ := mem_tableMarks.mp hmark
    obtain rfl : c = c' := Option.some.inj (hc.symm.trans hc')
    exact not_refers_of_generic hnames he hgeneric hrefers
  · intro hmark
    obtain ⟨r, hr, hi⟩ := List.mem_filterMap.mp hmark
    have hoffered := Relationship.mem_offers_of_mem_accepted hr
    unfold tieMark at hi
    split at hi
    · cases hi
    · -- The column that a shared key marks has the name of the key.
      obtain ⟨c', hc', hsame⟩ := Table.exists_of_columnIndex?_eq_some hi
      obtain rfl : c = c' := Option.some.inj (hc.symm.trans hc')
      rw [lowercase_eq_of_sameName hsame] at hgeneric
      exact sourceColumn_ne_generic_of_mem_tableOffers hnames hoffered hgeneric

end

end Inference

/--
**The generic key name is never claimed.**  Let no table with a key be called `id`, in any
spelling, and none have an empty name.  Then a run of inference leaves every column called
`id` as it was, and no relationship that it adds starts from such a column, however singulars
are formed.
-/
theorem infer_leavesGenericKey (toSingular : String → String) (s : Schema)
    (hnames : ∀ t ∈ s.tables, t.hasPrimaryKey →
      lowercase t.name ≠ genericKey ∧ lowercase t.name ≠ "") :
    (∀ (i : Nat) (t : Table), s.tables[i]? = some t →
      ∃ t' : Table, (s.infer toSingular).tables[i]? = some t' ∧
        ∀ (j : Nat) (c : Column), t.columns[j]? = some c → lowercase c.name = genericKey →
          t'.columns[j]? = some c) ∧
    ∃ added, (s.infer toSingular).relationships = s.relationships ++ added ∧
      ∀ r ∈ added, lowercase r.sourceColumn ≠ genericKey := by
  refine ⟨fun i t ht => ⟨_, Schema.infer_table ht, fun j c hc hgeneric => ?_⟩,
    s.inferred toSingular, Schema.infer_relationships_eq_append toSingular s, fun r hr => ?_⟩
  · have hmark := Inference.not_mem_marks_of_generic toSingular hnames (s.knownAt toSingular i)
      hc hgeneric
    rw [Table.getElem?_columns_marked, hc, Option.map_some, Schema.keyIndex]
    simp only [List.contains_eq_mem, hmark, List.not_mem_nil, Bool.or_false, decide_false]
  · obtain ⟨t, -, hoffered⟩ :=
      List.mem_flatMap.mp (Relationship.mem_offers_of_mem_accepted hr)
    exact Inference.sourceColumn_ne_generic_of_mem_tableOffers hnames hoffered

/-- A table whose name is the plural of the generic key, one that is called by it but has no
key, and two whose keys are spelled differently: the column `ID` stays as it was, and the one
relationship that is added starts from another column. -/
theorem infer_leavesGenericKey_plural :
    let ids : Table :=
      { name := "ids", columns := [{ name := "code", type := "INT", isPrimary := true }] }
    let keyless : Table := { name := "ID", columns := [{ name := "note", type := "TEXT" }] }
    let users : Table :=
      { name := "users", columns := [{ name := "id", type := "INT", isPrimary := true }] }
    let key : Column := { name := "ID", type := "INT", isPrimary := true }
    let orders : Table :=
      { name := "orders", columns := [key, { name := "user_id", type := "INT" }] }
    let tables := [ids, keyless, users, orders]
    (∀ t ∈ tables, t.hasPrimaryKey → lowercase t.name ≠ genericKey ∧ lowercase t.name ≠ "") ∧
      (∃ t' : Table, (Schema.infer singular { tables }).tables[3]? = some t' ∧
        t'.columns[0]? = some key) ∧
      (Schema.infer singular { tables }).relationships
        = [⟨"orders", "users", .reference "user_id" "id"⟩] ∧
      lowercase "user_id" ≠ genericKey := by
  intro ids keyless users key orders tables
  have hnames : ∀ t ∈ tables, t.hasPrimaryKey →
      lowercase t.name ≠ genericKey ∧ lowercase t.name ≠ "" := by
    decide +kernel
  have hrelationships : (Schema.infer singular { tables }).relationships
      = [⟨"orders", "users", .reference "user_id" "id"⟩] := by
    decide +kernel
  obtain ⟨hcolumns, added, hadded, hsources⟩ :=
    infer_leavesGenericKey singular { tables } hnames
  rw [hrelationships, List.nil_append] at hadded
  obtain ⟨t', ht', hkept⟩ := hcolumns 3 orders rfl
  refine ⟨hnames, ⟨t', ht', hkept 0 key rfl (by decide +kernel)⟩, hrelationships, ?_⟩
  exact hsources ⟨"orders", "users", .reference "user_id" "id"⟩ (by rw [← hadded]; simp)

end TableGraph
