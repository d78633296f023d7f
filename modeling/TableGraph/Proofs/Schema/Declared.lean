/-
What a script declares.

Constraints are applied one after the other: each marks columns of its table, and a foreign
key is recorded unless the list that has grown by then has it already.  What comes of all
this can be said of the statements themselves, without marks and without a list that grows.
A column is part of the primary key if one of its modifiers or one of the lists of a primary
key says so, and a foreign key if some clause begins at it.  The relationships are the
clauses of the script in their order, each unless an earlier one says the same.

For the last it matters that saying the same is an equivalence.  A clause is left out
because of a recorded one, and that it may be left out because of one that was itself left
out is the same thing: whatever stood in the way of that one is in the way of this one too.
-/
import TableGraph.Proofs.Relationships.Duplicates
import TableGraph.Proofs.Schema.Constraints

namespace TableGraph

open Text Script

/-! ### What statements say -/

/-- The name at this position is the first of all that is the same as `name`. -/
def IsFirstNamed (names : List String) (name : String) (i : Nat) : Prop :=
  (∃ n, names[i]? = some n ∧ sameName n name) ∧
    ∀ j n, j < i → names[j]? = some n → ¬ sameName n name

namespace Script

/-- The table that a statement creates, and the items of its body. -/
def Statement.creation? : Statement → Option (TableName × List Definition)
  | .createTable (some table) items => some (table, items)
  | _ => none

/-- The columns that the items declare, in their order. -/
def declaredColumns : List Definition → List ColumnDeclaration
  | [] => []
  | .column d :: items => d :: declaredColumns items
  | _ :: items => declaredColumns items

/-- What the item says if it is a foreign key, declared in either form: that the first column
of the table refers to the first column of the other one. -/
def Definition.clause? (owner : String) : Definition → Option Relationship
  | .namedForeignKey key | .foreignKey key =>
    key.columns.head?.bind fun column => key.referred.head?.map fun referred =>
      ⟨owner, key.table.name, .reference column referred⟩
  | _ => none

/-- The clauses of a table, in the order of its items. -/
def clauses (creation : TableName × List Definition) : List Relationship :=
  creation.2.filterMap (Definition.clause? creation.1.name)

end Script

/-- The table is the one that these items declare under this name. -/
structure Table.DeclaredBy (t : Table) (name : TableName) (items : List Definition) : Prop where
  name : t.name = name.name
  columns : t.columns.map (fun c => (c.name, c.type))
    = (declaredColumns items).map fun d => (d.name, d.type)
  /-- What makes a column part of the primary key: a modifier, or the name in a list. -/
  primary : ∀ i c d, t.columns[i]? = some c → (declaredColumns items)[i]? = some d →
    (c.isPrimary ↔ (∃ m ∈ d.modifiers, sameName (trim m) "primary key") ∨
      ∃ constraint listed, .primaryKey constraint listed ∈ items ∧
        ∃ n ∈ listed, IsFirstNamed (t.columns.map (·.name)) n i)
  /-- What makes a column a foreign key: that some clause begins at it. -/
  foreign : ∀ i c, t.columns[i]? = some c →
    (c.isForeign ↔ ∃ key, (.namedForeignKey key ∈ items ∨ .foreignKey key ∈ items) ∧
      key.referred ≠ [] ∧ ∃ column, key.columns.head? = some column ∧
        IsFirstNamed (t.columns.map (·.name)) column i)

namespace Relationship

/-- The relationships in their order, each unless an earlier one is the same reference. -/
def firstMentions (rs : List Relationship) : List Relationship :=
  (rs.zipIdx.filter fun (r, i) => decide (¬ ∃ q ∈ rs.take i, SameReference q r)).map (·.1)

end Relationship

/-! ### First mentions -/

namespace Relationship

variable {rs : List Relationship} {r : Relationship}

theorem firstMentions_concat (rs : List Relationship) (r : Relationship) :
    firstMentions (rs ++ [r])
      = firstMentions rs ++ if ∃ q ∈ rs, SameReference q r then [] else [r] := by
  have hsame : ∀ entry ∈ rs.zipIdx,
      decide (¬ ∃ q ∈ (rs ++ [r]).take entry.2, SameReference q entry.1)
        = decide (¬ ∃ q ∈ rs.take entry.2, SameReference q entry.1) := by
    intro entry hentry
    have hlt := (List.getElem?_eq_some_iff.mp (List.mem_zipIdx_iff_getElem?.mp hentry)).1
    rw [List.take_append_of_le_length hlt.le]
  rw [firstMentions, List.zipIdx_append, List.filter_append, List.map_append,
    List.filter_congr hsame, ← firstMentions, List.zipIdx_singleton, List.filter_singleton,
    Nat.zero_add]
  simp only [List.take_left]
  by_cases h : ∃ q ∈ rs, SameReference q r
  · rw [if_pos h, decide_eq_false (not_not.mpr h)]
    rfl
  · rw [if_neg h, decide_eq_true h]
    rfl

theorem SameReference.trans {a b c : Relationship} (h : SameReference a b)
    (h' : SameReference b c) : SameReference a c := by
  obtain ⟨ha, -, hsource, hcolumn, htarget⟩ := h
  obtain ⟨-, hc, hsource', hcolumn', htarget'⟩ := h'
  exact ⟨ha, hc, sameName_trans hsource hsource', sameName_trans hcolumn hcolumn',
    sameName_trans htarget htarget'⟩

theorem covers_iff_sameReference (h : r.isReference) {q : Relationship} :
    q.covers r ↔ SameReference q r := by
  refine ⟨fun hcovers => ?_, SameReference.covers⟩
  rw [covers_of_isReference h, sameReference_iff] at hcovers
  exact ⟨kind_eq_reference.mpr hcovers.1, kind_eq_reference.mpr h, hcovers.2⟩

theorem mem_of_mem_firstMentions (h : r ∈ firstMentions rs) : r ∈ rs := by
  obtain ⟨entry, hentry, rfl⟩ := List.mem_map.mp h
  exact List.fst_mem_of_mem_zipIdx (List.mem_of_mem_filter hentry)

/-- Each of the references is the same as some first mention. -/
theorem exists_mem_firstMentions (hr : r ∈ rs) (href : r.isReference) :
    ∃ q ∈ firstMentions rs, SameReference q r := by
  induction rs using List.reverseRecOn generalizing r with
  | nil => simp at hr
  | append_singleton rs last ih =>
      rw [firstMentions_concat]
      have hearlier : ∀ q ∈ rs, SameReference q r →
          ∃ p ∈ firstMentions rs ++ if ∃ q ∈ rs, SameReference q last then [] else [last],
            SameReference p r := by
        intro q hq hsame
        obtain ⟨p, hp, hpq⟩ := ih hq (kind_eq_reference.mp hsame.1)
        exact ⟨p, List.mem_append_left _ hp, hpq.trans hsame⟩
      have hself : SameReference r r := (covers_iff_sameReference href).mp (covers_refl r)
      rcases List.mem_append.mp hr with hbefore | hlast
      · exact hearlier r hbefore hself
      · obtain rfl := List.mem_singleton.mp hlast
        by_cases h : ∃ q ∈ rs, SameReference q r
        · obtain ⟨q, hq, hsame⟩ := h
          exact hearlier q hq hsame
        · exact ⟨r, by simp [if_neg h], hself⟩

/-- What is in the way of a reference is in the way by one that was recorded, and the other
way round. -/
theorem any_covers_acceptAll_iff (hrs : ∀ q ∈ rs, q.isReference) (hr : r.isReference) :
    (acceptAll [] rs).any (·.covers r) ↔ ∃ q ∈ rs, SameReference q r := by
  rw [List.any_eq_true]
  constructor
  · rintro ⟨q, hq, hcovers⟩
    rw [acceptAll_eq_append, List.nil_append] at hq
    exact ⟨q, mem_offers_of_mem_accepted hq, (covers_iff_sameReference hr).mp hcovers⟩
  · rintro ⟨q, hq, hsame⟩
    obtain ⟨p, hp, hcovers⟩ := exists_covers_of_mem [] hq
    exact ⟨p, hp, (((covers_iff_sameReference (hrs q hq)).mp hcovers).trans hsame).covers⟩

/-- References that are offered one after the other leave the first mentions. -/
theorem acceptAll_nil_left (hrs : ∀ q ∈ rs, q.isReference) :
    acceptAll [] rs = firstMentions rs := by
  induction rs using List.reverseRecOn with
  | nil => rfl
  | append_singleton rs r ih =>
      have hbefore : ∀ q ∈ rs, q.isReference := fun q hq => hrs q (by simp [hq])
      have hany := any_covers_acceptAll_iff hbefore (hrs r (by simp))
      rw [acceptAll_append, acceptAll_cons, acceptAll_nil, accept, firstMentions_concat,
        ← ih hbefore]
      by_cases h : ∃ q ∈ rs, SameReference q r
      · rw [if_pos (hany.mpr h), if_pos h, List.append_nil]
      · rw [if_neg (mt hany.mp h), if_neg h]

/-- The table that is referred to does not count. -/
example : firstMentions [⟨"books", "people", .reference "author" "id"⟩,
      ⟨"Books", "users", .reference "AUTHOR" "id"⟩, ⟨"books", "people", .reference "owner" "id"⟩]
    = [⟨"books", "people", .reference "author" "id"⟩,
      ⟨"books", "people", .reference "owner" "id"⟩] := by decide

end Relationship

/-! ### One statement -/

theorem Table.columnIndex?_eq_some_iff {t : Table} {name : String} {i : Nat} :
    t.columnIndex? name = some i ↔ IsFirstNamed (t.columns.map (·.name)) name i := by
  rw [columnIndex?, List.findIdx?_eq_some_iff_getElem, IsFirstNamed]
  simp only [List.getElem?_map, Option.map_eq_some_iff, List.getElem?_eq_some_iff]
  constructor
  · rintro ⟨hi, hname, hbefore⟩
    refine ⟨⟨_, ⟨_, ⟨hi, rfl⟩, rfl⟩, hname⟩, ?_⟩
    rintro j n hj ⟨c, ⟨hlt, rfl⟩, rfl⟩
    exact hbefore j hj
  · rintro ⟨⟨n, ⟨c, ⟨hi, rfl⟩, rfl⟩, hname⟩, hbefore⟩
    exact ⟨hi, hname, fun j hj => hbefore j _ hj ⟨_, ⟨hj.trans hi, rfl⟩, rfl⟩⟩

namespace Script

theorem ForeignKey.reference?_eq_some_iff {owner : String} {key : ForeignKey}
    {r : Relationship} :
    key.reference? owner = some r ↔ ∃ column referred, key.columns.head? = some column ∧
      key.referred.head? = some referred ∧
        r = ⟨owner, key.table.name, .reference column referred⟩ := by
  unfold reference?
  cases key.columns <;> cases key.referred <;> simp [eq_comm]

/-- The clauses are what the constraints are said to offer. -/
theorem Definition.clause?_eq (owner : String) (item : Definition) :
    item.clause? owner = item.reference? owner := by
  have hkey : ∀ key : ForeignKey,
      (key.columns.head?.bind fun column => key.referred.head?.map fun referred =>
        (⟨owner, key.table.name, .reference column referred⟩ : Relationship))
        = key.reference? owner := by
    intro key
    unfold ForeignKey.reference?
    cases key.columns <;> cases key.referred <;> rfl
  cases item <;> simp [clause?, reference?, foreignKey?, hkey]

theorem Definition.column?_eq_some_iff {item : Definition} {d : ColumnDeclaration} :
    item.column? = some d ↔ item = .column d := by
  cases item <;> simp [column?]

/-- The declared columns are the items that the draft takes for columns. -/
theorem filterMap_column? (items : List Definition) :
    items.filterMap Definition.column? = declaredColumns items := by
  induction items with
  | nil => rfl
  | cons item items ih =>
      cases item with
      | column d =>
          rw [List.filterMap_cons_some (Definition.column?_eq_some_iff.mpr rfl), ih]
          rfl
      | _ => exact ih

theorem Definition.foreignKey?_eq_some_iff {item : Definition} {key : ForeignKey} :
    item.foreignKey? = some key ↔ .namedForeignKey key = item ∨ .foreignKey key = item := by
  cases item <;> simp [foreignKey?, eq_comm]

theorem Definition.mem_primaryNames {item : Definition} {n : String} :
    n ∈ item.primaryNames ↔ ∃ constraint listed, .primaryKey constraint listed = item ∧
      n ∈ listed := by
  cases item <;> simp [primaryNames]

end Script

namespace Draft

variable {table : TableName} {items : List Definition}

theorem mem_constraints {item : Definition} :
    item ∈ (ofDefinitions table items).constraints ↔ item ∈ items ∧ item.column? = none := by
  simp [ofDefinitions]

/-- The draft offers the clauses of its items. -/
theorem offers_ofDefinitions (table : TableName) (items : List Definition) :
    (ofDefinitions table items).offers = clauses (table, items) := by
  simp only [offers, clauses, ofDefinitions, Definition.clause?_eq]
  rw [List.filterMap_filter]
  refine List.filterMap_congr fun item _ => ?_
  cases h : item.column? with
  | none => rfl
  | some d =>
      -- A column refers to nothing by itself.
      rw [Definition.column?_eq_some_iff.mp h]
      rfl

/-- A name that a list of a primary key has is one that the draft puts into the key. -/
theorem mem_primaryNames {n : String} :
    n ∈ (ofDefinitions table items).constraints.flatMap Definition.primaryNames ↔
      ∃ constraint listed, .primaryKey constraint listed ∈ items ∧ n ∈ listed := by
  rw [List.mem_flatMap]
  constructor
  · rintro ⟨item, hitem, hn⟩
    obtain ⟨constraint, listed, rfl, hlisted⟩ := Definition.mem_primaryNames.mp hn
    exact ⟨constraint, listed, (mem_constraints.mp hitem).1, hlisted⟩
  · rintro ⟨constraint, listed, hitem, hlisted⟩
    exact ⟨_, mem_constraints.mpr ⟨hitem, rfl⟩,
      Definition.mem_primaryNames.mpr ⟨constraint, listed, rfl, hlisted⟩⟩

/-- A clause comes from a foreign key in one of the two forms. -/
theorem mem_clauses {r : Relationship} :
    r ∈ clauses (table, items) ↔ ∃ key,
      (.namedForeignKey key ∈ items ∨ .foreignKey key ∈ items) ∧
        key.reference? table.name = some r := by
  simp only [clauses, List.mem_filterMap, Definition.clause?_eq, Definition.reference?,
    Option.bind_eq_some_iff, Definition.foreignKey?_eq_some_iff]
  constructor
  · rintro ⟨item, hitem, key, rfl | rfl, hkey⟩
    · exact ⟨key, Or.inl hitem, hkey⟩
    · exact ⟨key, Or.inr hitem, hkey⟩
  · rintro ⟨key, hitem | hitem, hkey⟩
    · exact ⟨_, hitem, key, Or.inl rfl, hkey⟩
    · exact ⟨_, hitem, key, Or.inr rfl, hkey⟩

theorem names_settled (d : Draft) :
    d.settled.columns.map (·.name) = d.table.columns.map (·.name) := by
  apply List.ext_getElem?
  intro i
  simp [settled, Table.getElem?_columns_marked, Function.comp_def]

/-- A column is part of the key if a modifier says so or a listed name finds it. -/
theorem isPrimary_settled {i : Nat} {c : Column} {d : ColumnDeclaration}
    (hc : (ofDefinitions table items).settled.columns[i]? = some c)
    (hd : (declaredColumns items)[i]? = some d) :
    c.isPrimary ↔ d.modifiers.any marksPrimaryKey ∨
      ∃ n, (ofDefinitions table items).table.columnIndex? n = some i ∧
        ∃ constraint listed, .primaryKey constraint listed ∈ items ∧ n ∈ listed := by
  have hdeclared : (ofDefinitions table items).table.columns[i]? = some (columnOf d) := by
    simp [ofDefinitions, filterMap_column?, hd]
  rw [settled, Table.getElem?_columns_marked, hdeclared, Option.map_some, Option.some.injEq] at hc
  rw [← hc]
  simp only [Bool.or_eq_true, List.contains_iff_mem, List.mem_filterMap, mem_primaryNames]
  exact or_congr_right (exists_congr fun n => and_comm)

/-- A column is a foreign key if some clause begins at a name that finds it. -/
theorem isForeign_settled {i : Nat} {c : Column}
    (hc : (ofDefinitions table items).settled.columns[i]? = some c) :
    c.isForeign ↔ ∃ r ∈ clauses (table, items),
      (ofDefinitions table items).table.columnIndex? r.sourceColumn = some i := by
  rw [settled, Table.getElem?_columns_marked, Option.map_eq_some_iff] at hc
  obtain ⟨c₀, hc₀, rfl⟩ := hc
  have hplain : c₀.isForeign = false := by
    obtain ⟨d, -, rfl⟩ := List.mem_map.mp (List.mem_of_getElem? hc₀)
    rfl
  simp only [hplain, Bool.false_or, List.contains_iff_mem, List.mem_filterMap,
    offers_ofDefinitions]

/-- The table that a draft is settled as is the one that its items declare. -/
theorem declaredBy_settled (table : TableName) (items : List Definition) :
    (ofDefinitions table items).settled.DeclaredBy table items := by
  constructor
  case name => rfl
  case columns =>
    apply List.ext_getElem?
    intro i
    simp [settled, Table.getElem?_columns_marked, Function.comp_def, ofDefinitions, columnOf,
      filterMap_column?]
  case primary =>
    intro i c d hc hd
    rw [isPrimary_settled hc hd, names_settled, List.any_eq_true]
    simp only [Table.columnIndex?_eq_some_iff]
    refine or_congr_right ⟨?_, ?_⟩
    · rintro ⟨n, hfirst, constraint, listed, hitem, hn⟩
      exact ⟨constraint, listed, hitem, n, hn, hfirst⟩
    · rintro ⟨constraint, listed, hitem, n, hn, hfirst⟩
      exact ⟨n, hfirst, constraint, listed, hitem, hn⟩
  case foreign =>
    intro i c hc
    rw [isForeign_settled hc, names_settled]
    simp only [Table.columnIndex?_eq_some_iff, mem_clauses, ForeignKey.reference?_eq_some_iff]
    constructor
    · rintro ⟨-, ⟨key, hkey, column, referred, hcolumn, hreferred, rfl⟩, hfirst⟩
      have hne : key.referred ≠ [] := List.ne_nil_of_mem (List.mem_of_mem_head? hreferred)
      exact ⟨key, hkey, hne, column, hcolumn, hfirst⟩
    · rintro ⟨key, hkey, hne, column, hcolumn, hfirst⟩
      have hreferred := List.head?_eq_some_head hne
      exact ⟨_, ⟨key, hkey, column, _, hcolumn, hreferred, rfl⟩, hfirst⟩

end Draft

/-! ### All statements -/

/-- There is one draft for each table that is created. -/
theorem Draft.ofScript_eq_map (statements : List Statement) :
    Draft.ofScript statements = (statements.filterMap Statement.creation?).map fun creation =>
      ofDefinitions creation.1 creation.2 := by
  rw [Draft.ofScript, List.map_filterMap]
  refine List.filterMap_congr fun statement _ => ?_
  cases statement with
  | other => rfl
  | createTable table items => cases table <;> rfl

namespace Schema

theorem declaredBy_ofScript (statements : List Statement) :
    List.Forall₂ (fun creation t => Table.DeclaredBy t creation.1 creation.2)
      (statements.filterMap Statement.creation?) (ofScript statements).tables := by
  rw [ofScript_eq, Draft.ofScript_eq_map, List.map_map, List.forall₂_map_right_iff,
    List.forall₂_same]
  intro creation _
  exact Draft.declaredBy_settled creation.1 creation.2

theorem relationships_ofScript (statements : List Statement) :
    (ofScript statements).relationships = Relationship.firstMentions
      ((statements.filterMap Statement.creation?).flatMap clauses) := by
  have hoffers : (Draft.ofScript statements).flatMap Draft.offers
      = (statements.filterMap Statement.creation?).flatMap clauses := by
    rw [Draft.ofScript_eq_map, List.flatMap_map]
    exact List.flatMap_congr fun creation _ => Draft.offers_ofDefinitions creation.1 creation.2
  rw [ofScript_eq, hoffers]
  refine Relationship.acceptAll_nil_left fun q hq => ?_
  rw [← hoffers] at hq
  obtain ⟨d, -, hd⟩ := List.mem_flatMap.mp hq
  exact (Draft.mem_offers_spec hd).1

end Schema

/--
**What a script declares.**  For every statement that creates a table there is one table, in
their order, and it is the one that the items of the statement declare.  The relationships
are the clauses of the script in their order, without those that repeat an earlier one.
-/
theorem ofScript_declares (statements : List Statement) :
    List.Forall₂ (fun creation t => Table.DeclaredBy t creation.1 creation.2)
        (statements.filterMap Statement.creation?) (Schema.ofScript statements).tables ∧
      (Schema.ofScript statements).relationships = Relationship.firstMentions
        ((statements.filterMap Statement.creation?).flatMap clauses) :=
  ⟨Schema.declaredBy_ofScript statements, Schema.relationships_ofScript statements⟩

/-- A key that is listed before its column and finds the first of two names, a foreign key that is
repeated in the other form, one that leads to no column, and statements that declare nothing. -/
theorem ofScript_declares_orders :
    let users : TableName := { schema := some "shop", name := "users" }
    let userItems : List Definition := [
      .column { name := "id", type := "INT", modifiers := ["NOT NULL", " Primary Key "] },
      .other none]
    let orders : TableName := { name := "orders" }
    let orderItems : List Definition := [
      .primaryKey none ["ID", "number"], .column { name := "id", type := "INT" },
      .namedForeignKey { columns := ["owner"], table := users, referred := ["id"] },
      .column { name := "Id", type := "TEXT" }, .column { name := "owner", type := "INT" },
      .foreignKey { columns := ["OWNER"], table := { name := "people" }, referred := ["ID"] },
      .foreignKey { columns := ["id"], table := users, referred := [] }]
    let s := Schema.ofScript [.other, .createTable (some users) userItems,
      .createTable none orderItems, .createTable (some orders) orderItems]
    ∃ u o, s.tables = [u, o] ∧ u.DeclaredBy users userItems ∧ o.DeclaredBy orders orderItems ∧
      u.columns = [{ name := "id", type := "INT", isPrimary := true }] ∧
      o.columns = [{ name := "id", type := "INT", isPrimary := true },
        { name := "Id", type := "TEXT" }, { name := "owner", type := "INT", isForeign := true }] ∧
      Relationship.firstMentions (clauses (users, userItems) ++ clauses (orders, orderItems))
        = [⟨"orders", "users", .reference "owner" "id"⟩] := by
  intro users userItems orders orderItems s
  have hs : s = {
      tables := [
        { name := "users", columns := [{ name := "id", type := "INT", isPrimary := true }] },
        { name := "orders"
          columns := [{ name := "id", type := "INT", isPrimary := true },
            { name := "Id", type := "TEXT" },
            { name := "owner", type := "INT", isForeign := true }] }]
      relationships := [⟨"orders", "users", .reference "owner" "id"⟩] } := by decide +kernel
  obtain ⟨htables, hrelationships⟩ := ofScript_declares [.other,
    .createTable (some users) userItems, .createTable none orderItems,
    .createTable (some orders) orderItems]
  change List.Forall₂ _ [(users, userItems), (orders, orderItems)] s.tables at htables
  change s.relationships = _ at hrelationships
  rw [hs] at htables hrelationships
  obtain ⟨hu, hrest⟩ := List.forall₂_cons.mp htables
  obtain ⟨ho, -⟩ := List.forall₂_cons.mp hrest
  exact ⟨_, _, by rw [hs], hu, ho, rfl, rfl, hrelationships.symm⟩

end TableGraph
