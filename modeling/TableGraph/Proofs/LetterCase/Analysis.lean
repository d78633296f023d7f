/-
The analysis does not depend on the case of ASCII letters.

Two scripts that become equal when their names are folded have analyses that become equal
in the same way, because each stage may be exchanged with folding: the declared schema, the
inferred one, the figures, and the graph.  Nothing has to be followed through two runs at
once.

Of the figures the most connected tables are of interest, because they are sorted.  Folding
changes no count, so the comparisons of the sort come out as before and ties keep their
order.  Ranks have no names in them at all, and are equal outright.
-/
import TableGraph.Analysis
import TableGraph.Proofs.LetterCase.Inference
import TableGraph.Proofs.LetterCase.Script

namespace TableGraph

open Text

/-! ### The most connected tables -/

namespace Statistics

/-- The figure with the table's name folded. -/
def Connections.foldCase (c : Connections) : Connections := { c with table := foldAscii c.table }

theorem connections_foldCase (relationships : List Relationship) (t : Table) :
    connections (relationships.map Relationship.foldCase) t.foldCase
      = (connections relationships t).foldCase := by
  simp [connections, Connections.foldCase, List.countP_map, Function.comp_def]

end Statistics

open Statistics in
theorem Schema.mostConnected_foldCase (s : Schema) (limit : Nat) :
    s.foldCase.mostConnected limit = (s.mostConnected limit).map Connections.foldCase := by
  have hcounts : s.foldCase.tables.map (connections s.foldCase.relationships)
      = (s.tables.map (connections s.relationships)).map Connections.foldCase := by
    simp [foldCase, connections_foldCase]
  rw [mostConnected, hcounts, mostConnected, List.map_take]
  congr 1
  symm
  apply List.map_mergeSort
  intro a _ b _
  rfl

/-! ### Ranks -/

namespace Layout

/-- The arrow with its two ends folded. -/
def Arrow.foldCase (a : Arrow) : Arrow := ⟨foldAscii a.source, foldAscii a.target⟩

theorem lastIndex?_foldAscii (ids : List String) (id : String) :
    lastIndex? (ids.map foldAscii) (foldAscii id) = lastIndex? ids id := by
  simp [lastIndex?, List.zipIdx_map, ← List.map_reverse, List.find?_map, Function.comp_def]

theorem ends?_foldCase (ids : List String) (a : Arrow) :
    ends? (ids.map foldAscii) a.foldCase = ends? ids a := by
  simp only [ends?, Arrow.foldCase, lastIndex?_foldAscii]

/-- Folding the ids and the ends of the arrows changes no rank. -/
theorem assignRanks_foldCase (ids : List String) (arrows : List Arrow) :
    assignRanks (ids.map foldAscii) (arrows.map Arrow.foldCase) = assignRanks ids arrows := by
  have hpreds : predecessors (ids.map foldAscii) (arrows.map Arrow.foldCase)
      = predecessors ids arrows := by
    simp only [predecessors, List.filterMap_map, Function.comp_def, ends?_foldCase,
      List.length_map]
  simp only [assignRanks, hpreds, List.length_map]

end Layout

namespace Graph

/-- The ranks of the nodes of a graph, as it is laid out. -/
def ranks (g : Graph) : List Nat :=
  Layout.assignRanks (g.nodes.map (·.id)) (g.edges.map fun e => ⟨e.source, e.target⟩)

theorem ranks_ofSchema (s : Schema) :
    (ofSchema s).ranks = Layout.assignRanks (s.tables.map (·.name))
      (s.relationships.map fun r => ⟨r.source, r.target⟩) := by
  simp only [ranks, ofSchema, List.map_map]
  congr 1
  apply List.ext_getElem?
  intro i
  simp [Edge.ofRelationship, Function.comp_def]

theorem ranks_ofSchema_foldCase (s : Schema) :
    (ofSchema s.foldCase).ranks = (ofSchema s).ranks := by
  rw [ranks_ofSchema, ranks_ofSchema, ← Layout.assignRanks_foldCase (s.tables.map (·.name))]
  simp [Schema.foldCase, Layout.Arrow.foldCase, Function.comp_def]

end Graph

/-! ### Being the same up to case -/

/-- The columns differ in the spelling of the name at most. -/
structure Column.SameUpToCase (c d : Column) : Prop where
  name : sameName c.name d.name
  type : c.type = d.type
  isPrimary : c.isPrimary = d.isPrimary
  isForeign : c.isForeign = d.isForeign

/-- The tables differ in the spelling of names at most. -/
structure Table.SameUpToCase (t u : Table) : Prop where
  name : sameName t.name u.name
  columns : List.Forall₂ Column.SameUpToCase t.columns u.columns

/-- The relationships differ in the spelling of names at most. -/
structure Relationship.SameUpToCase (r q : Relationship) : Prop where
  kind : r.kind = q.kind
  source : sameName r.source q.source
  target : sameName r.target q.target
  sourceColumn : sameName r.sourceColumn q.sourceColumn
  targetColumn : sameName r.targetColumn q.targetColumn

/-- The analyses differ in the spelling of names at most, and have the same ranks. -/
structure Analysis.SameUpToCase (a b : Analysis) : Prop where
  tables : List.Forall₂ Table.SameUpToCase a.schema.tables b.schema.tables
  relationships :
    List.Forall₂ Relationship.SameUpToCase a.schema.relationships b.schema.relationships
  mostConnected : List.Forall₂ (fun c d => sameName c.table d.table ∧ c.count = d.count)
    a.statistics.mostConnected b.statistics.mostConnected
  ranks : a.graph.ranks = b.graph.ranks

/-- Lists with the same images are related position by position. -/
private theorem forall₂_of_map_eq {α β : Type} {f : α → β} {R : α → α → Prop}
    (hR : ∀ a b, f a = f b → R a b) {l l' : List α} (h : l.map f = l'.map f) :
    List.Forall₂ R l l' := by
  have heq : List.Forall₂ (· = ·) (l.map f) (l'.map f) := by
    rw [h, List.forall₂_eq_eq_eq]
  rw [List.forall₂_map_left_iff, List.forall₂_map_right_iff] at heq
  exact heq.imp hR

theorem Column.sameUpToCase_of_foldCase {c d : Column} (h : c.foldCase = d.foldCase) :
    c.SameUpToCase d := by
  simp only [foldCase, Column.mk.injEq] at h
  obtain ⟨hname, htype, hprimary, hforeign⟩ := h
  exact ⟨sameName_iff.mpr hname, htype, hprimary, hforeign⟩

theorem Table.sameUpToCase_of_foldCase {t u : Table} (h : t.foldCase = u.foldCase) :
    t.SameUpToCase u :=
  ⟨sameName_iff.mpr (congrArg Table.name h),
    forall₂_of_map_eq (fun _ _ => Column.sameUpToCase_of_foldCase) (congrArg Table.columns h)⟩

theorem Relationship.sameUpToCase_of_foldCase {r q : Relationship}
    (h : r.foldCase = q.foldCase) : r.SameUpToCase q := by
  refine ⟨?_, ?_, ?_, ?_, ?_⟩
  · have hkind := congrArg Relationship.kind h
    rwa [kind_foldCase, kind_foldCase] at hkind
  · exact sameName_iff.mpr (congrArg Relationship.source h)
  · exact sameName_iff.mpr (congrArg Relationship.target h)
  · have hcolumn := congrArg Relationship.sourceColumn h
    rw [sourceColumn_foldCase, sourceColumn_foldCase] at hcolumn
    exact sameName_iff.mpr hcolumn
  · have hcolumn := congrArg Relationship.targetColumn h
    rw [targetColumn_foldCase, targetColumn_foldCase] at hcolumn
    exact sameName_iff.mpr hcolumn

/-- Schemas that are equal when folded have analyses that are the same up to case. -/
theorem Analysis.sameUpToCase_ofSchema (options : Statistics.Options) {s s' : Schema}
    (h : s.foldCase = s'.foldCase) :
    (Analysis.ofSchema options s).SameUpToCase (Analysis.ofSchema options s') where
  tables := forall₂_of_map_eq (fun _ _ => Table.sameUpToCase_of_foldCase)
    (congrArg Schema.tables h)
  relationships := forall₂_of_map_eq (fun _ _ => Relationship.sameUpToCase_of_foldCase)
    (congrArg Schema.relationships h)
  mostConnected := by
    have hmost := congrArg (·.mostConnected options.topConnected) h
    simp only [Schema.mostConnected_foldCase] at hmost
    refine forall₂_of_map_eq (fun c d hcd => ?_) hmost
    simp only [Statistics.Connections.foldCase, Statistics.Connections.mk.injEq] at hcd
    exact ⟨sameName_iff.mpr hcd.1, hcd.2⟩
  ranks := by
    have hranks := congrArg (fun s => (Graph.ofSchema s).ranks) h
    simp only [Graph.ranks_ofSchema_foldCase] at hranks
    exact hranks

open Script in
/--
**The analysis does not depend on the case of ASCII letters.**  Two scripts that differ only
in the spelling of the names of tables and columns, wherever they occur, and of modifiers,
have the same tables, relationships and most connected tables up to spelling, position by
position, and the same ranks.
-/
theorem analysis_sameUpToCase (toSingular : String → String) (options : Statistics.Options)
    (first second : List Statement)
    (h : first.map Statement.foldCase = second.map Statement.foldCase) :
    (Analysis.ofScriptWith toSingular options first).SameUpToCase
      (Analysis.ofScriptWith toSingular options second) := by
  apply Analysis.sameUpToCase_ofSchema
  rw [← Schema.infer_foldCase, ← Schema.infer_foldCase, ← Schema.ofScript_foldCase,
    ← Schema.ofScript_foldCase, h]

open Script in
/-- The name of the first table ends in a sigma, which lower-casing treats apart. -/
theorem analysis_sameUpToCase_sigma :
    let first : List Statement := [
      .createTable (some { name := "aΣ" })
        [.column { name := "id", type := "INT", modifiers := [" primary key"] }],
      .createTable (some { name := "orders" })
        [.column { name := "code", type := "INT" }, .column { name := "aΣ_id", type := "INT" },
          .primaryKey none ["CODE"]]]
    let second : List Statement := [
      .createTable (some { name := "AΣ" })
        [.column { name := "Id", type := "INT", modifiers := [" PRIMARY KEY"] }],
      .createTable (some { name := "Orders" })
        [.column { name := "Code", type := "INT" }, .column { name := "AΣ_ID", type := "INT" },
          .primaryKey none ["code"]]]
    let a := Analysis.ofScriptWith singular {} first
    let b := Analysis.ofScriptWith singular {} second
    first.map Statement.foldCase = second.map Statement.foldCase ∧
      a.schema.relationships = [⟨"orders", "aΣ", .reference "aΣ_id" "id"⟩] ∧
      a.SameUpToCase b := by
  intro first second a b
  have hfold : first.map Statement.foldCase = second.map Statement.foldCase := by decide +kernel
  have hrelationships : a.schema.relationships
      = [⟨"orders", "aΣ", .reference "aΣ_id" "id"⟩] := by
    decide +kernel
  exact ⟨hfold, hrelationships, analysis_sameUpToCase singular {} first second hfold⟩

end TableGraph
