/-
Inference only adds.

What a run leaves of a schema is the schema with something added: marks of foreign keys to
the columns, and relationships after those that were there.  Whoever held on to a table, a
column or a relationship by its place finds it there afterwards.

And what is added is about the schema.  A relationship may lead to tables that do not exist,
but only if it was declared that way; an added one leads from a column of a table to a key of
a table, and the names in it are names that the schema has.  This is not quite plain from the
index.  Where names of tables become equal in lower case, one entry stands for all of them,
and has its name from the first of these tables and its key column from the last.  So the two
come from tables of the schema, but not always from one and the same.
-/
import TableGraph.Graph.Basic
import TableGraph.Proofs.Inference.FixedPoint
import TableGraph.Proofs.Inference.KeyIndex
import TableGraph.Text.Singular

namespace TableGraph

open Text

/-! ### Where an entry comes from -/

/-- The entry has the name of one of these tables, and the key column of one that has the same
name in lower case. -/
structure KeyEntry.ComesFrom (tables : List Table) (e : KeyEntry) : Prop where
  table : ∃ t ∈ tables, t.name = e.table
  column : ∃ t ∈ tables, lowercase t.name = e.key ∧
    ∃ key, t.primaryKey? = some key ∧ key.name = e.column

/-- Every entry comes from the tables that the index was built from. -/
theorem KeyIndex.comesFrom_of_mem {toSingular : String → String} {tables : List Table} :
    ∀ e ∈ KeyIndex.ofTables toSingular tables, e.ComesFrom tables := by
  apply forall_mem_ofTables
  · intro t ht key hkey
    exact ⟨⟨t, ht, rfl⟩, ⟨t, ht, rfl, key, hkey, rfl⟩⟩
  · -- The name stays that of the first table, the key column is that of this one.
    intro t ht key hkey e he hname
    exact ⟨he.table, ⟨t, ht, hname.symm, key, hkey, rfl⟩⟩

/-! ### What becomes of tables and columns -/

/-- The second column is the first, or the first with the mark of a foreign key. -/
structure Column.KeptAs (c c' : Column) : Prop where
  name : c'.name = c.name
  type : c'.type = c.type
  isPrimary : c'.isPrimary = c.isPrimary
  isForeign : c.isForeign → c'.isForeign

/-- The second table has the name of the first, and its columns at their places. -/
structure Table.KeptAs (t t' : Table) : Prop where
  name : t'.name = t.name
  columns : List.Forall₂ Column.KeptAs t.columns t'.columns

/-- Marks of foreign keys are all that a table gains. -/
theorem Table.GainsMarks.keptAs {t t' : Table} (h : t.GainsMarks t') : t.KeptAs t' := by
  obtain ⟨foreign, rfl⟩ := h
  refine ⟨rfl, List.forall₂_iff_get.mpr ⟨by simp [marked], fun i hi hi' => ?_⟩⟩
  have hcolumn := getElem?_columns_marked t [] foreign i
  rw [List.getElem?_eq_getElem hi', List.getElem?_eq_getElem hi, Option.map_some,
    Option.some.injEq] at hcolumn
  rw [List.get_eq_getElem, List.get_eq_getElem, hcolumn]
  exact ⟨rfl, rfl, by simp, fun hforeign => by simp [hforeign]⟩

/-! ### What an added relationship leads to -/

/-- The relationship leads from a column of one of these tables to a key of one of them.  The
key belongs to a table with the target's name in lower case. -/
structure Relationship.WithinTables (tables : List Table) (r : Relationship) : Prop where
  source : ∃ t ∈ tables, t.name = r.source ∧ ∃ c ∈ t.columns, c.name = r.sourceColumn
  target : ∃ t ∈ tables, t.name = r.target
  key : ∃ t ∈ tables, lowercase t.name = lowercase r.target ∧
    ∃ key, t.primaryKey? = some key ∧ sameName r.targetColumn key.name

namespace Inference

/-- What the rules offer for a table is about it and the tables of the index. -/
theorem withinTables_of_mem_tableOffers {toSingular : String → String} {tables : List Table}
    {t : Table} {r : Relationship} (ht : t ∈ tables)
    (hr : r ∈ tableOffers (KeyIndex.ofTables toSingular tables) t) : r.WithinTables tables := by
  obtain ⟨c, hc, e, he, hoffer⟩ := mem_tableOffers.mp hr
  obtain ⟨htable, owner, howner, hlower, key, hkey, hcolumn⟩ := KeyIndex.comesFrom_of_mem e he
  rw [KeyIndex.key_eq_of_mem he] at hlower
  rcases hoffer with ⟨-, rfl⟩ | ⟨shared, ⟨-, hown, hsame, -⟩, rfl⟩
  · refine ⟨⟨t, ht, rfl, c, hc, rfl⟩, htable, owner, howner, hlower, key, hkey, ?_⟩
    show sameName e.column key.name
    rw [hcolumn]
    exact sameName_refl _
  · -- A shared key is spelled as the source spells it.
    obtain ⟨own, hfound, rfl⟩ := Option.map_eq_some_iff.mp hown
    refine ⟨⟨t, ht, rfl, own, List.mem_of_find?_eq_some hfound, rfl⟩, htable,
      owner, howner, hlower, key, hkey, ?_⟩
    show sameName own.name key.name
    rwa [hcolumn]

end Inference

namespace Schema

variable {toSingular : String → String} {s : Schema}

theorem withinTables_of_mem_inferred {r : Relationship} (hr : r ∈ s.inferred toSingular) :
    r.WithinTables s.tables := by
  obtain ⟨t, ht, hoffer⟩ := List.mem_flatMap.mp (Relationship.mem_offers_of_mem_accepted hr)
  exact Inference.withinTables_of_mem_tableOffers ht hoffer

/-- The name of a table of the schema is found among the nodes of what a run leaves. -/
theorem exists_node?_infer {t : Table} (ht : t ∈ s.tables) :
    ∃ n, (Graph.ofSchema (s.infer toSingular)).node? t.name = some n ∧ sameName n.id t.name := by
  obtain ⟨i, hi⟩ := List.mem_iff_getElem?.mp ht
  have hnode : Node.ofTable (t.marked [] _) ∈ (Graph.ofSchema (s.infer toSingular)).nodes :=
    List.mem_map_of_mem (List.mem_of_getElem? (infer_table hi))
  obtain ⟨n, hn⟩ := Graph.exists_node?_of_mem hnode (sameName_refl t.name)
  exact ⟨n, hn, Graph.sameName_of_node?_eq_some hn⟩

end Schema

/--
**Inference only adds.**  After a run the tables are there in their order, with their names
and their columns; a column is as it was, or is marked as a foreign key in addition.  The
relationships that were known come first, unchanged, and the run says how many it has put
after them.  Each of these leads from a column of a table to a key of a table, so the graph
has a node for both ends of every edge that was added.
-/
theorem infer_onlyAdds (toSingular : String → String) (s : Schema) :
    List.Forall₂ Table.KeptAs s.tables (s.infer toSingular).tables ∧
      ∃ added, (s.infer toSingular).relationships = s.relationships ++ added ∧
        s.inferredCount toSingular = added.length ∧
        (∀ r ∈ added, r.WithinTables s.tables) ∧
        ∀ edge ∈ (Graph.ofSchema (s.infer toSingular)).edges.drop s.relationships.length,
          (∃ n, (Graph.ofSchema (s.infer toSingular)).node? edge.source = some n ∧
            sameName n.id edge.source) ∧
          ∃ n, (Graph.ofSchema (s.infer toSingular)).node? edge.target = some n ∧
            sameName n.id edge.target := by
  have hadded := Schema.infer_relationships_eq_append toSingular s
  refine ⟨(Schema.gainsMarks_infer toSingular s).imp fun _ _ h => h.keptAs,
    s.inferred toSingular, hadded, ?_, fun r hr => Schema.withinTables_of_mem_inferred hr, ?_⟩
  · rw [Schema.inferredCount, hadded, List.length_append, Nat.add_sub_cancel_left]
  · intro edge hedge
    have hedges : (Graph.ofSchema (s.infer toSingular)).edges.drop s.relationships.length
        = (s.inferred toSingular).mapIdx fun i r =>
            Edge.ofRelationship (i + s.relationships.length) r := by
      rw [Graph.ofSchema, hadded, List.mapIdx_append, List.drop_left' (by simp)]
    rw [hedges] at hedge
    obtain ⟨i, hi, rfl⟩ := List.mem_mapIdx.mp hedge
    obtain ⟨⟨t, ht, hsource, -⟩, ⟨u, hu, htarget⟩, -⟩ :=
      Schema.withinTables_of_mem_inferred (List.getElem_mem hi)
    simp only [Edge.ofRelationship, ← hsource, ← htarget]
    exact ⟨Schema.exists_node?_infer ht, Schema.exists_node?_infer hu⟩

/-- Two tables have the same name in lower case: the entry has the name of the first and the
key of the second. -/
theorem infer_onlyAdds_twoTables :
    let first : Table :=
      { name := "Users", columns := [{ name := "id", type := "INT", isPrimary := true }] }
    let second : Table :=
      { name := "USERS", columns := [{ name := "uuid", type := "INT", isPrimary := true }] }
    let orders : Table := { name := "orders", columns := [{ name := "user_id", type := "INT" }] }
    let tables := [first, second, orders]
    let added : Relationship := ⟨"orders", "Users", .reference "user_id" "uuid"⟩
    (Schema.infer singular { tables }).relationships = [added] ∧ added.WithinTables tables := by
  intro first second orders tables added
  have hrelationships : (Schema.infer singular { tables }).relationships = [added] := by
    decide +kernel
  obtain ⟨-, added', hadded, -, hwithin, -⟩ := infer_onlyAdds singular { tables }
  rw [hrelationships, List.nil_append] at hadded
  exact ⟨hrelationships, hwithin added (by rw [← hadded]; exact List.mem_singleton_self added)⟩

end TableGraph
