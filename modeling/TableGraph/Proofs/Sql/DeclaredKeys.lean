/-
Keys that are written in SQL.

On the way from a statement to a schema keys change their form.  The key on a column becomes
a modifier of the column, one text among others, and is recognised by its words.  A
reference on a column is cut out of it and stands among the constraints.  And where a
reference names no column, one is filled in, in one place for columns and in another for
constraints.  None of this loses a key or makes one up: what a statement declares, stated
here for the statement as it is written, is what its table and the relationships say.

The words of an option are its own, and another option that is written like a primary key
would be taken for one.  So it is assumed that there is no such option.
-/
import TableGraph.Proofs.Schema.Declared
import TableGraph.Sql.Script

namespace TableGraph.Sql

open Text Script

/-! ### What a statement declares -/

/-- The table that the statement creates. -/
def Statement.create? : Statement → Option CreateTable
  | createTable c => some c
  | plan | other => none

namespace CreateTable

/-- The column begins a foreign key of the table: with a reference among its options, or as
the first column of a constraint, with a name or without. -/
inductive DeclaresKey (c : CreateTable) : Ident → Reference → Prop
  | onColumn {column : ColumnDef} {o : NamedOption} {r : Reference} (hcolumn : column ∈ c.columns)
      (ho : o ∈ column.options) (hr : o.option = .references r) : DeclaresKey c column.name r
  | onTable {name : Option Ident} {column : Ident} {others : List Ident} {r : Reference}
      (h : .foreignKey name (column :: others) r ∈ c.constraints) : DeclaresKey c column r

/-- No other option is written like a primary key. -/
def PlainOptions (c : CreateTable) : Prop :=
  ∀ column ∈ c.columns, ∀ o ∈ column.options, (∀ timing, o.option ≠ .primaryKey timing) →
    ¬ sameName (trim o.option.render) "primary key"

/-- The reference that a foreign key makes, to the column `id` where none is named. -/
def keyReference (c : CreateTable) (column : Ident) (r : Reference) : Relationship where
  source := c.name.base.text
  target := r.table.base.text
  link := .reference column.text ((r.columns.head?.map (·.text)).getD "id")

/-- The table has the name and the columns of the statement, and its primary key. -/
structure ReadAs (c : CreateTable) (t : Table) : Prop where
  name : t.name = c.name.base.text
  columns : t.columns.map (fun col => (col.name, col.type))
    = c.columns.map fun column => (column.name.text, column.type.render)
  /-- A column of the key is marked by an option, or is the first of a name in a list. -/
  primary : ∀ i col column, t.columns[i]? = some col → c.columns[i]? = some column →
    (col.isPrimary ↔ (∃ o ∈ column.options, ∃ timing, o.option = .primaryKey timing) ∨
      ∃ name listed, .primaryKey name listed ∈ c.constraints ∧
        ∃ n ∈ listed, IsFirstNamed (c.columns.map (·.name.text)) n.text i)

end CreateTable

/-! ### Foreign keys -/

/-- The first column that a constraint refers to, with the one filled in. -/
theorem TableConstraint.head?_referred_toForeignKey (name : Option Ident) (columns : List Ident)
    (r : Reference) : (toForeignKey name columns r).referred.head?
      = some ((r.columns.head?.map (·.text)).getD "id") := by
  unfold toForeignKey
  cases r.columns <;> rfl

/-- A constraint makes a reference if it is a foreign key, with a name or without. -/
theorem TableConstraint.reference?_toDefinition {k : TableConstraint} {c : CreateTable}
    {q : Relationship} : k.toDefinition.reference? c.name.base.text = some q ↔
      ∃ name column others r, k = .foreignKey name (column :: others) r ∧
        q = c.keyReference column r := by
  cases k with
  | foreignKey name columns r =>
      have hkey : (foreignKey name columns r).toDefinition.foreignKey?
          = some (toForeignKey name columns r) := by
        cases name <;> rfl
      rw [Definition.reference?, hkey, Option.bind_some, ForeignKey.reference?_eq_some_iff]
      simp only [head?_referred_toForeignKey]
      cases columns with
      | nil => simp [toForeignKey]
      | cons column others => simp [toForeignKey, CreateTable.keyReference, ObjectName.toTableName]
  | _ => simp [toDefinition, Definition.reference?, Definition.foreignKey?]

/-- The references that come from a column are those among its options. -/
theorem ColumnDef.exists_reference?_toDefinitions {column : ColumnDef} {c : CreateTable}
    {q : Relationship} :
    (∃ item ∈ column.toDefinitions, item.reference? c.name.base.text = some q) ↔
      ∃ o ∈ column.options, ∃ r, o.option = .references r ∧ q = c.keyReference column.name r := by
  have hoption : ∀ o : NamedOption,
      (column.foreignKey? o).bind (ForeignKey.reference? c.name.base.text) = some q ↔
        ∃ r, o.option = .references r ∧ q = c.keyReference column.name r := by
    intro o
    unfold foreignKey?
    cases o.option <;> simp [ForeignKey.reference?, CreateTable.keyReference,
      ObjectName.toTableName, impliedColumn, eq_comm]
  simp only [← hoption, toDefinitions, List.mem_cons, List.mem_map, List.mem_filterMap,
    Option.bind_eq_some_iff]
  constructor
  · rintro ⟨item, rfl | ⟨key, ⟨o, ho, hkey⟩, rfl⟩, hq⟩
    · simp [Definition.reference?, Definition.foreignKey?] at hq
    · exact ⟨o, ho, key, hkey, hq⟩
  · rintro ⟨o, ho, key, hkey, hq⟩
    exact ⟨.foreignKey key, Or.inr ⟨key, ⟨o, ho, hkey⟩, rfl⟩, hq⟩

namespace CreateTable

variable {c : CreateTable}

/-- The items of a statement are those of its columns, and its constraints. -/
theorem mem_toDefinitions {item : Definition} : item ∈ c.toDefinitions ↔
    (∃ column ∈ c.columns, item ∈ column.toDefinitions) ∨
      ∃ k ∈ c.constraints, k.toDefinition = item := by
  simp [toDefinitions]

/-- The clauses of a statement are the references that its foreign keys make. -/
theorem mem_clauses {q : Relationship} :
    q ∈ clauses (c.name.toTableName, c.toDefinitions) ↔
      ∃ column r, c.DeclaresKey column r ∧ q = c.keyReference column r := by
  simp only [clauses, List.mem_filterMap, Definition.clause?_eq, mem_toDefinitions]
  constructor
  · rintro ⟨item, ⟨column, hcolumn, hitem⟩ | ⟨k, hk, rfl⟩, hq⟩
    · obtain ⟨o, ho, r, hr, rfl⟩ :=
        ColumnDef.exists_reference?_toDefinitions.mp ⟨item, hitem, hq⟩
      exact ⟨column.name, r, .onColumn hcolumn ho hr, rfl⟩
    · obtain ⟨name, column, others, r, rfl, rfl⟩ := TableConstraint.reference?_toDefinition.mp hq
      exact ⟨column, r, .onTable hk, rfl⟩
  · rintro ⟨column, r, hkey, rfl⟩
    cases hkey with
    | onColumn hcolumn ho hr =>
        obtain ⟨item, hitem, hq⟩ :=
          ColumnDef.exists_reference?_toDefinitions.mpr ⟨_, ho, r, hr, rfl⟩
        exact ⟨item, Or.inl ⟨_, hcolumn, hitem⟩, hq⟩
    | onTable hk =>
        exact ⟨_, Or.inr ⟨_, hk, rfl⟩,
          TableConstraint.reference?_toDefinition.mpr ⟨_, column, _, r, rfl, rfl⟩⟩

end CreateTable

/-! ### Columns and primary keys -/

/-- What becomes of an option is taken for a primary key only if it is one. -/
theorem ColumnOption.toModifier_marks_iff {o : ColumnOption}
    (h : (∀ timing, o ≠ .primaryKey timing) → ¬ sameName (trim o.render) "primary key") :
    sameName (trim o.toModifier) "primary key" ↔ ∃ timing, o = .primaryKey timing := by
  by_cases hprimary : ∃ timing, o = .primaryKey timing
  · obtain ⟨timing, rfl⟩ := hprimary
    have hmarks : sameName (trim "PRIMARY KEY") "primary key" := by decide
    exact iff_of_true hmarks ⟨timing, rfl⟩
  · have hother : ∀ timing, o ≠ .primaryKey timing := fun timing ho => hprimary ⟨timing, ho⟩
    have hrender : o.toModifier = o.render := by
      cases o with
      | primaryKey timing => exact absurd rfl (hother timing)
      | _ => rfl
    rw [hrender]
    exact iff_of_false (h hother) hprimary

namespace CreateTable

variable {c : CreateTable}

/-- The columns of the statement are declared in their order. -/
theorem declaredColumns_toDefinitions (c : CreateTable) :
    declaredColumns c.toDefinitions = c.columns.map ColumnDef.toDeclaration := by
  have hcolumn : ∀ column : ColumnDef,
      column.toDefinitions.filterMap Definition.column? = [column.toDeclaration] := by
    intro column
    simp [ColumnDef.toDefinitions, Definition.column?, List.filterMap_map, Function.comp_def]
  have hconstraint : ∀ k : TableConstraint, k.toDefinition.column? = none := by
    intro k
    cases k with
    | foreignKey name columns r => cases name <;> rfl
    | _ => rfl
  rw [← filterMap_column?, toDefinitions, List.filterMap_append, List.filterMap_flatMap,
    List.filterMap_map]
  simp only [hcolumn, Function.comp_def, hconstraint, List.filterMap_none, List.append_nil]
  exact List.map_eq_flatMap.symm

/-- Only a constraint gives a list of a primary key. -/
theorem primaryKey_mem_toDefinitions {constraint : Option String} {listed : List String} :
    .primaryKey constraint listed ∈ c.toDefinitions ↔ ∃ name columns,
      .primaryKey name columns ∈ c.constraints ∧ constraint = name.map (·.text) ∧
        listed = columns.map (·.text) := by
  rw [mem_toDefinitions]
  constructor
  · rintro (⟨column, -, hitem⟩ | ⟨k, hk, hitem⟩)
    · simp [ColumnDef.toDefinitions] at hitem
    · cases k with
      | primaryKey name columns =>
          cases hitem
          exact ⟨name, columns, hk, rfl, rfl⟩
      | foreignKey name columns r => cases name <;> cases hitem
      | _ => cases hitem
  · rintro ⟨name, columns, hk, rfl, rfl⟩
    exact Or.inr ⟨_, hk, rfl⟩

/-- A table that is declared by the items of a statement is the one that it describes. -/
theorem readAs_of_declaredBy {t : Table} (h : t.DeclaredBy c.name.toTableName c.toDefinitions)
    (hplain : c.PlainOptions) : c.ReadAs t := by
  have hdeclared := declaredColumns_toDefinitions c
  have hcolumns := h.columns
  rw [hdeclared, List.map_map] at hcolumns
  have hnames : t.columns.map (·.name) = c.columns.map (·.name.text) := by
    have hfst := congrArg (List.map Prod.fst) hcolumns
    simpa [Function.comp_def, ColumnDef.toDeclaration] using hfst
  constructor
  case name => exact h.name
  case columns => exact hcolumns
  case primary =>
    intro i col column hcol hcolumn
    have hdeclaration : (declaredColumns c.toDefinitions)[i]? = some column.toDeclaration := by
      rw [hdeclared, List.getElem?_map, hcolumn, Option.map_some]
    rw [h.primary i col _ hcol hdeclaration, hnames]
    refine or_congr ?_ ?_
    · have hoption : ∀ o ∈ column.options, sameName (trim o.option.toModifier) "primary key" ↔
          ∃ timing, o.option = .primaryKey timing := fun o ho =>
        ColumnOption.toModifier_marks_iff (hplain column (List.mem_of_getElem? hcolumn) o ho)
      simp only [ColumnDef.toDeclaration, List.mem_map, exists_exists_and_eq_and]
      exact exists_congr fun o => and_congr_right fun ho => hoption o ho
    · constructor
      · rintro ⟨constraint, listed, hitem, n, hn, hfirst⟩
        obtain ⟨name, columns, hk, rfl, rfl⟩ := primaryKey_mem_toDefinitions.mp hitem
        obtain ⟨ident, hident, rfl⟩ := List.mem_map.mp hn
        exact ⟨name, columns, hk, ident, hident, hfirst⟩
      · rintro ⟨name, columns, hk, ident, hident, hfirst⟩
        exact ⟨_, _, primaryKey_mem_toDefinitions.mpr ⟨name, columns, hk, rfl, rfl⟩, _,
          List.mem_map_of_mem hident, hfirst⟩

end CreateTable

/-! ### The schema of a script -/

/-- The tables that a script creates are those that its statements create. -/
theorem filterMap_creation?_toScript (statements : List Statement) :
    (statements.map Statement.toScript).filterMap Script.Statement.creation?
      = (statements.filterMap Statement.create?).map fun c =>
          (c.name.toTableName, c.toDefinitions) := by
  rw [List.filterMap_map, List.map_filterMap]
  refine List.filterMap_congr fun statement _ => ?_
  cases statement <;> rfl

/--
**No key is lost and none is made up.**  Every statement that creates a table gives a table,
with its columns and its primary key.  Every foreign key that is declared is found among the
relationships, up to the case of its names, and every relationship is the reference of a
declared foreign key.
-/
theorem keys_ofScript_toScript (statements : List Statement)
    (hplain : ∀ c ∈ statements.filterMap Statement.create?, c.PlainOptions) :
    let schema := Schema.ofScript (statements.map Statement.toScript)
    List.Forall₂ CreateTable.ReadAs (statements.filterMap Statement.create?) schema.tables ∧
      (∀ c ∈ statements.filterMap Statement.create?, ∀ column r, c.DeclaresKey column r →
        ∃ q ∈ schema.relationships, Relationship.SameReference q (c.keyReference column r)) ∧
      ∀ q ∈ schema.relationships, ∃ c ∈ statements.filterMap Statement.create?,
        ∃ column r, c.DeclaresKey column r ∧ q = c.keyReference column r := by
  intro schema
  have htables := Schema.declaredBy_ofScript (statements.map Statement.toScript)
  have hrelationships := Schema.relationships_ofScript (statements.map Statement.toScript)
  rw [filterMap_creation?_toScript] at htables hrelationships
  rw [List.forall₂_map_left_iff] at htables
  rw [List.flatMap_map] at hrelationships
  refine ⟨?_, ?_, ?_⟩
  · rw [List.forall₂_iff_get] at htables ⊢
    refine ⟨htables.1, fun i hi hi' => ?_⟩
    exact CreateTable.readAs_of_declaredBy (htables.2 i hi hi') (hplain _ (List.get_mem _ _))
  · intro c hc column r hkey
    have hclause : c.keyReference column r ∈
        (statements.filterMap Statement.create?).flatMap fun c =>
          clauses (c.name.toTableName, c.toDefinitions) :=
      List.mem_flatMap.mpr ⟨c, hc, CreateTable.mem_clauses.mpr ⟨column, r, hkey, rfl⟩⟩
    rw [hrelationships]
    exact Relationship.exists_mem_firstMentions hclause rfl
  · intro q hq
    rw [hrelationships] at hq
    obtain ⟨c, hc, hclause⟩ := List.mem_flatMap.mp (Relationship.mem_of_mem_firstMentions hq)
    exact ⟨c, hc, CreateTable.mem_clauses.mp hclause⟩

/-- A reference on a column and one in a constraint, under another spelling of the names. -/
theorem keys_ofScript_toScript_onColumnAndTable :
    let id : ColumnDef :=
      { name := { text := "id" }, type := .sized "INT" none
        options := [{ option := .notNull }, { option := .primaryKey {} }] }
    let number : ColumnDef := { name := { text := "number" }, type := .sized "INT" none }
    let buyer : ColumnDef :=
      { name := { text := "user_id" }, type := .sized "INT" none
        options := [{ option := .references { table := { base := { text := "users" } } } }] }
    let users : CreateTable := { name := { base := { text := "users" } }, columns := [id] }
    let orders : CreateTable :=
      { name := { qualifiers := [{ text := "shop" }], base := { text := "orders" } }
        columns := [number, buyer]
        constraints := [
          .primaryKey none [{ text := "NUMBER" }],
          .foreignKey (some { text := "buyer" }) [{ text := "USER_ID" }]
            { table := { base := { text := "users" } }, columns := [{ text := "ID" }] }] }
    let statements : List Statement := [.createTable users, .other, .createTable orders]
    let schema := Schema.ofScript (statements.map Statement.toScript)
    (∀ c ∈ statements.filterMap Statement.create?, c.PlainOptions) ∧
      List.Forall₂ CreateTable.ReadAs [users, orders] schema.tables ∧
      (∃ q ∈ schema.relationships, Relationship.SameReference q
        ⟨"orders", "users", .reference "user_id" "id"⟩) ∧
      ∃ q ∈ schema.relationships, Relationship.SameReference q
        ⟨"orders", "users", .reference "USER_ID" "ID"⟩ := by
  intro id number buyer users orders statements schema
  have husers : users.PlainOptions := by
    intro column hcolumn o ho hother
    obtain rfl : column = id := List.mem_singleton.mp hcolumn
    obtain rfl | rfl : o = { option := .notNull } ∨ o = { option := .primaryKey {} } := by
      simpa [id] using ho
    · decide
    · exact absurd rfl (hother {})
  have horders : orders.PlainOptions := by
    intro column hcolumn o ho hother
    obtain rfl | rfl : column = number ∨ column = buyer := by simpa [orders] using hcolumn
    · cases ho
    · obtain rfl := List.mem_singleton.mp ho
      decide
  have hplain : ∀ c ∈ statements.filterMap Statement.create?, c.PlainOptions := by
    intro c hc
    rcases List.mem_pair.mp hc with rfl | rfl
    · exact husers
    · exact horders
  have hmem : orders ∈ statements.filterMap Statement.create? :=
    List.mem_cons_of_mem _ (List.mem_cons_self ..)
  have honColumn : orders.DeclaresKey buyer.name { table := { base := { text := "users" } } } :=
    .onColumn (List.mem_cons_of_mem _ (List.mem_cons_self ..)) (List.mem_cons_self ..) rfl
  have honTable : orders.DeclaresKey { text := "USER_ID" }
      { table := { base := { text := "users" } }, columns := [{ text := "ID" }] } :=
    .onTable (List.mem_cons_of_mem _ (List.mem_cons_self ..))
  obtain ⟨htables, hkeys, -⟩ := keys_ofScript_toScript statements hplain
  have hfirst := hkeys orders hmem _ _ honColumn
  have hsecond := hkeys orders hmem _ _ honTable
  exact ⟨hplain, htables, hfirst, hsecond⟩

end TableGraph.Sql
