/-
The neighbours of a node, and the relationships of its table.

Whether two tables have to do with each other is asked in three places.  A graph looks at
the two ends of an edge, inference at whether a relationship connects two tables, and the
figures count the relationships that touch one.  All three compare names in the same way, so
the first two say the same, and from then on the graph can be forgotten: the neighbours are
the nodes of tables that a relationship connects with the name asked for.

That the third agrees is a matter of counting.  A relationship that connects a table with one
of another name has that other name at its far end, so tables of different names are at the far
ends of different relationships, and each of these touches the table.
-/
import TableGraph.Graph.Query
import TableGraph.Proofs.Relationships.Covering
import TableGraph.Schema.Statistics
import Mathlib.Data.List.Nodup

namespace TableGraph

open Text

/-! ### Links of a graph -/

theorem Edge.links_comm (e : Edge) (a b : String) : e.links a b = e.links b a := by
  unfold Edge.links
  rw [Bool.or_comm, Bool.and_comm, Bool.and_comm (sameName e.source a)]

/-- An edge links two names just if its relationship connects them. -/
theorem Edge.links_ofRelationship (place : Nat) (r : Relationship) (a b : String) :
    (Edge.ofRelationship place r).links a b = r.connects a b := by
  unfold Edge.links Relationship.connects
  rw [Bool.and_comm (sameName (Edge.ofRelationship place r).target a)]
  rfl

theorem Edge.links_congr {a a' b b' : String} (ha : sameName a a') (hb : sameName b b')
    (e : Edge) : e.links a b = e.links a' b' := by
  simp only [Edge.links, sameName_congr_right ha, sameName_congr_right hb]

namespace Graph

variable {g : Graph}

theorem linked_comm (g : Graph) (a b : String) : g.linked a b = g.linked b a := by
  unfold linked
  simp only [Edge.links_comm _ a b]

theorem linked_congr {a a' b b' : String} (ha : sameName a a') (hb : sameName b b') :
    g.linked a b = g.linked a' b' := by
  unfold linked
  simp only [Edge.links_congr ha hb]

/-- A node of another name is a neighbour just if it is linked. -/
theorem mem_neighbors_iff {n m : Node} {id : String} (hn : n ∈ g.nodes) (hid : sameName n.id id)
    (hm : m ∈ g.nodes) (hne : ¬ sameName m.id id) : m ∈ g.neighbors id ↔ g.linked id m.id := by
  obtain ⟨selected, hselected⟩ := exists_node?_of_mem hn hid
  have hname := sameName_of_node?_eq_some hselected
  unfold neighbors
  rw [hselected]
  show m ∈ selected :: _ ↔ _
  rw [List.mem_cons, List.mem_filter]
  constructor
  · rintro (rfl | ⟨-, h⟩)
    · exact absurd hname hne
    · simpa [hne] using h
  · intro h
    exact Or.inr ⟨hm, by simpa [hne] using h⟩

/-- **Neighbours are neighbours of each other**, as long as their names differ. -/
theorem mem_neighbors_comm {n m : Node} (hn : n ∈ g.nodes) (hm : m ∈ g.nodes)
    (hne : ¬ sameName m.id n.id) : m ∈ g.neighbors n.id ↔ n ∈ g.neighbors m.id := by
  rw [mem_neighbors_iff hn (sameName_refl _) hm hne,
    mem_neighbors_iff hm (sameName_refl _) hn (by rwa [sameName_comm]), linked_comm]

/-- A neighbour is a node, and it has neighbours only whom a node's name is asked for. -/
theorem mem_nodes_of_mem_neighbors {m : Node} {id : String} (hm : m ∈ g.neighbors id) :
    m ∈ g.nodes ∧ ∃ n ∈ g.nodes, sameName n.id id := by
  unfold neighbors at hm
  split at hm
  · cases hm
  · rename_i n hn
    refine ⟨?_, n, mem_of_node?_eq_some hn, sameName_of_node?_eq_some hn⟩
    rcases List.mem_cons.mp hm with rfl | hm
    · exact mem_of_node?_eq_some hn
    · exact (List.mem_filter.mp hm).1

/-- Some neighbour of `a` goes by the name `b` just if both are names of nodes and linked. -/
theorem exists_mem_neighbors_iff {a b : String} (hne : ¬ sameName a b) :
    (∃ m ∈ g.neighbors a, sameName m.id b) ↔
      (∃ n ∈ g.nodes, sameName n.id a) ∧ (∃ m ∈ g.nodes, sameName m.id b) ∧ g.linked a b := by
  have hother : ∀ {m : Node}, sameName m.id b → ¬ sameName m.id a := by
    intro m hm hma
    rw [sameName_comm] at hma
    exact hne (sameName_trans hma hm)
  constructor
  · rintro ⟨m, hm, hb⟩
    obtain ⟨hnode, n, hn, ha⟩ := mem_nodes_of_mem_neighbors hm
    have hlinked := (mem_neighbors_iff hn ha hnode (hother hb)).mp hm
    exact ⟨⟨n, hn, ha⟩, ⟨m, hnode, hb⟩, by rwa [← linked_congr (sameName_refl a) hb]⟩
  · rintro ⟨⟨n, hn, ha⟩, ⟨m, hm, hb⟩, hlinked⟩
    refine ⟨m, (mem_neighbors_iff hn ha hm (hother hb)).mpr ?_, hb⟩
    rwa [linked_congr (sameName_refl a) hb]

end Graph

/-! ### Links of a schema -/

namespace Schema

/-- The first table of this name. -/
def table? (s : Schema) (name : String) : Option Table := s.tables.find? (·.isNamed name)

/-- The tables of other names that some relationship connects with this name, in their order. -/
def connectedTables (s : Schema) (name : String) : List Table :=
  s.tables.filter fun t => !t.isNamed name && s.relationships.any (·.connects name t.name)

variable {s : Schema}

theorem node?_ofSchema (s : Schema) (id : String) :
    (Graph.ofSchema s).node? id = (s.table? id).map Node.ofTable := by
  rw [Graph.node?, Graph.ofSchema, List.find?_map]
  rfl

theorem linked_ofSchema (s : Schema) (a b : String) :
    (Graph.ofSchema s).linked a b = s.relationships.any (·.connects a b) := by
  have hedges : (Graph.ofSchema s).edges = s.relationships.mapIdx Edge.ofRelationship := rfl
  rw [Graph.linked, hedges, Bool.eq_iff_iff, List.any_eq_true, List.any_eq_true]
  constructor
  · rintro ⟨e, he, hlinks⟩
    obtain ⟨i, hi, rfl⟩ := List.mem_mapIdx.mp he
    exact ⟨_, List.getElem_mem hi, by rwa [← Edge.links_ofRelationship i]⟩
  · rintro ⟨r, hr, hconnects⟩
    obtain ⟨i, hi, rfl⟩ := List.mem_iff_getElem.mp hr
    refine ⟨_, List.mem_mapIdx.mpr ⟨i, hi, rfl⟩, ?_⟩
    rwa [Edge.links_ofRelationship]

/-- **The neighbours of a name** are the nodes of the first table of this name and of the tables
connected with it. -/
theorem neighbors_ofSchema (s : Schema) (id : String) :
    (Graph.ofSchema s).neighbors id = match s.table? id with
      | none => []
      | some first => Node.ofTable first :: (s.connectedTables id).map Node.ofTable := by
  have hfilter : ((Graph.ofSchema s).nodes.filter fun n =>
        !sameName n.id id && (Graph.ofSchema s).linked id n.id)
      = (s.connectedTables id).map Node.ofTable := by
    simp only [linked_ofSchema]
    rw [Graph.ofSchema, List.filter_map]
    rfl
  rw [Graph.neighbors, node?_ofSchema, hfilter]
  cases s.table? id with
  | none => rfl
  | some first => rfl

theorem neighbors_eq_nil_iff {id : String} :
    (Graph.ofSchema s).neighbors id = [] ↔ ∀ t ∈ s.tables, ¬ t.isNamed id := by
  have hnone : s.table? id = none ↔ ∀ t ∈ s.tables, ¬ t.isNamed id := by
    rw [table?, List.find?_eq_none]
  rw [neighbors_ofSchema, ← hnone]
  cases s.table? id with
  | none => simp
  | some first => simp

/-! ### Connections -/

/-- The end of a relationship that is not the one of this name. -/
def farEnd (name : String) (r : Relationship) : String :=
  if sameName r.source name then r.target else r.source

/-- A relationship that connects a name with another one has that other name at its far end. -/
theorem sameName_farEnd {r : Relationship} {name other : String} (h : r.connects name other)
    (hne : ¬ sameName other name) : r.touches name ∧ sameName (farEnd name r) other := by
  unfold farEnd
  rcases Relationship.connects_iff.mp h with ⟨hsource, htarget⟩ | ⟨hsource, htarget⟩
  · rw [if_pos hsource]
    exact ⟨by simp [Relationship.touches, hsource], htarget⟩
  · have hfar : ¬ sameName r.source name := by
      rwa [sameName_congr_left hsource]
    rw [if_neg hfar]
    exact ⟨by simp [Relationship.touches, htarget], hsource⟩

/-- **A name is connected with no more tables than relationships touch it**, if no two tables
have the same name. -/
theorem length_connectedTables_le
    (hnames : s.tables.Pairwise fun t u => ¬ sameName t.name u.name) (name : String) :
    (s.connectedTables name).length ≤ s.relationships.countP (·.touches name) := by
  set names := (s.connectedTables name).map fun t => foldAscii t.name with hdef
  set ends := (s.relationships.filter (·.touches name)).map fun r => foldAscii (farEnd name r)
  have hdistinct : names.Nodup := by
    have hconnected : (s.connectedTables name).Pairwise fun t u => ¬ sameName t.name u.name :=
      hnames.sublist List.filter_sublist
    rw [hdef, List.nodup_iff_pairwise_ne, List.pairwise_map]
    exact hconnected.imp fun h heq => h (sameName_iff.mpr heq)
  have hsubset : names ⊆ ends := by
    intro folded hfolded
    obtain ⟨t, ht, rfl⟩ := List.mem_map.mp hfolded
    obtain ⟨-, hconnected⟩ := List.mem_filter.mp ht
    rw [Bool.and_eq_true, Bool.not_eq_true', List.any_eq_true] at hconnected
    obtain ⟨hne, r, hr, hconnects⟩ := hconnected
    obtain ⟨htouches, hfar⟩ := sameName_farEnd hconnects (Bool.not_eq_true _ ▸ hne)
    exact List.mem_map.mpr ⟨r, List.mem_filter.mpr ⟨hr, htouches⟩, sameName_iff.mp hfar⟩
  calc (s.connectedTables name).length
      = names.length := by rw [hdef, List.length_map]
    _ ≤ ends.length := hdistinct.length_le_of_subset hsubset
    _ = s.relationships.countP (·.touches name) := by
        rw [List.length_map, List.countP_eq_length_filter]

/-- Every figure about connections is that of a table. -/
theorem exists_table_of_mem_mostConnected {limit : Nat} {c : Statistics.Connections}
    (hc : c ∈ s.mostConnected limit) :
    ∃ t ∈ s.tables, Statistics.connections s.relationships t = c := by
  have hsorted := List.mem_of_mem_take hc
  rw [List.mem_mergeSort] at hsorted
  exact List.mem_map.mp hsorted

/-- A limit that leaves no table out leaves the figure of each table in. -/
theorem connections_mem_mostConnected {limit : Nat} {t : Table} (ht : t ∈ s.tables)
    (hlimit : s.tables.length ≤ limit) :
    Statistics.connections s.relationships t ∈ s.mostConnected limit := by
  rw [mostConnected, List.take_of_length_le (by simpa using hlimit), List.mem_mergeSort]
  exact List.mem_map_of_mem ht

end Schema

/--
**Neighbours and relationships agree.**  A name has no neighbours just if no table has it.  If
one does, the neighbours are the node of the first such table and then, in the order of the
tables, those of the tables of other names that some relationship connects with it.  Of two
names that differ, one is among the neighbours of the other just if the other is among its
own, and so for the nodes themselves.  The figures have the connections of every table that
their limit does not leave out, and where no two tables have the same name, a table has at most
that many neighbours besides itself.
-/
theorem neighbors_agree (s : Schema) :
    (∀ id, (Graph.ofSchema s).neighbors id = [] ↔ ∀ t ∈ s.tables, ¬ t.isNamed id) ∧
    (∀ id first, s.tables.find? (·.isNamed id) = some first →
      (Graph.ofSchema s).neighbors id
        = Node.ofTable first :: (s.tables.filter fun t =>
            !t.isNamed id && s.relationships.any (·.connects id t.name)).map Node.ofTable) ∧
    (∀ a b, ¬ sameName a b →
      ((∃ n ∈ (Graph.ofSchema s).neighbors a, sameName n.id b) ↔
        ∃ n ∈ (Graph.ofSchema s).neighbors b, sameName n.id a)) ∧
    (∀ m ∈ (Graph.ofSchema s).nodes, ∀ n ∈ (Graph.ofSchema s).nodes, ¬ sameName m.id n.id →
      (m ∈ (Graph.ofSchema s).neighbors n.id ↔ n ∈ (Graph.ofSchema s).neighbors m.id)) ∧
    (∀ options : Statistics.Options, s.tables.length ≤ options.topConnected → ∀ t ∈ s.tables,
      ∃ c ∈ (s.statistics options).mostConnected, c.table = t.name) ∧
    (s.tables.Pairwise (fun t u => ¬ sameName t.name u.name) → ∀ options,
      ∀ c ∈ (s.statistics options).mostConnected,
        ((Graph.ofSchema s).neighbors c.table).tail.length ≤ c.count) := by
  refine ⟨fun id => Schema.neighbors_eq_nil_iff, fun id first hfirst => ?_, fun a b hne => ?_,
    fun m hm n hn hne => Graph.mem_neighbors_comm hn hm hne,
    fun options hlimit t ht => ⟨_, Schema.connections_mem_mostConnected ht hlimit, rfl⟩,
    fun hnames options c hc => ?_⟩
  · rw [Schema.neighbors_ofSchema, Schema.table?, hfirst]
    rfl
  · have hne' : ¬ sameName b a := by rwa [sameName_comm]
    rw [Graph.exists_mem_neighbors_iff hne, Graph.exists_mem_neighbors_iff hne',
      Graph.linked_comm]
    exact and_left_comm
  · obtain ⟨t, ht, rfl⟩ := Schema.exists_table_of_mem_mostConnected hc
    show ((Graph.ofSchema s).neighbors t.name).tail.length
      ≤ s.relationships.countP (·.touches t.name)
    have hbound := Schema.length_connectedTables_le hnames t.name
    rw [Schema.neighbors_ofSchema]
    cases s.table? t.name with
    | none => simp
    | some first => simpa using hbound

/-- Parallel edges in different spellings, a table that refers to itself, and one that refers to
a table that is missing. -/
theorem neighbors_agree_mixedCase :
    let users : Table := { name := "Users" }
    let orders : Table := { name := "orders" }
    let s : Schema :=
      { tables := [users, { name := "audit_log" }, orders]
        relationships := [⟨"orders", "USERS", .reference "user_id" "id"⟩,
          ⟨"Orders", "users", .reference "buyer" "id"⟩, ⟨"orders", "orders", .sharedKey "no"⟩,
          ⟨"orders", "missing", .reference "x" "id"⟩] }
    s.tables.Pairwise (fun t u => ¬ sameName t.name u.name) ∧
      (Graph.ofSchema s).neighbors "ORDERS" = [Node.ofTable orders, Node.ofTable users] ∧
      (∃ n ∈ (Graph.ofSchema s).neighbors "users", sameName n.id "ORDERS") ∧
      ⟨"orders", 4⟩ ∈ (s.statistics {}).mostConnected ∧
      ((Graph.ofSchema s).neighbors "orders").tail.length ≤ 4 := by
  intro users orders s
  have hnames : s.tables.Pairwise fun t u => ¬ sameName t.name u.name := by decide +kernel
  have hcounted : Statistics.connections s.relationships orders = ⟨"orders", 4⟩ := by
    decide +kernel
  have hfigure : ⟨"orders", 4⟩ ∈ (s.statistics {}).mostConnected := by
    rw [← hcounted]
    exact Schema.connections_mem_mostConnected (by simp [s]) (by decide)
  have hfirst : s.tables.find? (·.isNamed "ORDERS") = some orders := by decide +kernel
  have hothers : (s.tables.filter fun t => !t.isNamed "ORDERS" &&
      s.relationships.any (·.connects "ORDERS" t.name)) = [users] := by
    decide +kernel
  obtain ⟨-, hneighbors, hsymmetric, -, -, hcount⟩ := neighbors_agree s
  have horders := hneighbors "ORDERS" orders hfirst
  rw [hothers] at horders
  have hneighbor : ∃ n ∈ (Graph.ofSchema s).neighbors "ORDERS", sameName n.id "users" := by
    rw [horders]
    exact ⟨Node.ofTable users, List.mem_cons_of_mem _ (List.mem_singleton_self _), by
      decide +kernel⟩
  have hdiffer : ¬ sameName "ORDERS" "users" := by decide +kernel
  have hbound := hcount hnames {} _ hfigure
  dsimp only at hbound
  exact ⟨hnames, horders, (hsymmetric "ORDERS" "users" hdiffer).mp hneighbor, hfigure, hbound⟩

end TableGraph
