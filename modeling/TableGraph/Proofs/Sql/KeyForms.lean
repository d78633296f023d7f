/-
The forms in which a key is written.

A key of one column may stand on the column or among the constraints of the table, and a
foreign key among the constraints may have a name.  On the way to the schema the forms go
different ways: an option becomes a modifier or is cut out of its column, a column that a
reference leaves out is filled in by another function for each form, and what stood on the
column is now applied after the constraints that stood before it.  So the reference that is
recorded for a column may be another one afterwards, when two of them differ in nothing but
the table they lead to.  What does not change is which column refers to a column of which
name, and that is all that the marks of the tables depend on.

The name in a list finds the first column of that name.  So a key that stood on a column is
only found again there if no column before it goes by the same name.
-/
import TableGraph.Proofs.Sql.DeclaredKeys
import TableGraph.Proofs.Schema.Exchange

namespace TableGraph

open Text Script

namespace Sql

/-! ### Forms of a key -/

namespace CreateTable

/-- The second statement has one option more, on a column of this name. -/
inductive HasOption (column : Ident) (option : ColumnOption) : CreateTable → CreateTable → Prop
  | intro (table : ObjectName) (before after : List ColumnDef) (type : DataType)
      (collation : Option ObjectName) (first last : List NamedOption) (name : Option Ident)
      (constraints : List TableConstraint) :
      HasOption column option
        ⟨table, before ++ ⟨column, type, collation, first ++ last⟩ :: after, constraints⟩
        ⟨table, before ++ ⟨column, type, collation, first ++ ⟨name, option⟩ :: last⟩ :: after,
          constraints⟩

/-- The second statement has one constraint more. -/
inductive HasConstraint (constraint : TableConstraint) : CreateTable → CreateTable → Prop
  | intro (table : ObjectName) (columns : List ColumnDef) (above below : List TableConstraint) :
      HasConstraint constraint ⟨table, columns, above ++ below⟩
        ⟨table, columns, above ++ constraint :: below⟩

/-- What is a key on a column in the first statement is in the second one a key among the
constraints that lists this column alone. -/
inductive KeyMoved (c c' : CreateTable) : Prop
  | primaryKey {base : CreateTable} {column listed : Ident} {timing : Timing} {name : Option Ident}
      (hlisted : sameName listed.text column.text)
      (hoption : HasOption column (.primaryKey timing) base c)
      (hconstraint : HasConstraint (.primaryKey name [listed]) base c')
  | foreignKey {base : CreateTable} {column listed : Ident} {r r' : Reference}
      (hlisted : sameName listed.text column.text) (htable : r'.table = r.table)
      (hcolumns : r'.columns = r.columns)
      (hoption : HasOption column (.references r) base c)
      (hconstraint : HasConstraint (.foreignKey none [listed] r') base c')

/-- The statements differ in the name of a foreign key, which either of them may leave out. -/
inductive KeyRenamed : CreateTable → CreateTable → Prop
  | intro (table : ObjectName) (columns : List ColumnDef) (above below : List TableConstraint)
      (name name' : Option Ident) (listed : List Ident) (r : Reference) :
      KeyRenamed ⟨table, columns, above ++ .foreignKey name listed r :: below⟩
        ⟨table, columns, above ++ .foreignKey name' listed r :: below⟩

/-- The schema of a script in which the statement stands between others. -/
def schemaWithin (before after : List Statement) (c : CreateTable) : Schema :=
  .ofScript ((before ++ .createTable c :: after).map Statement.toScript)

end CreateTable

/-! ### What an option or a constraint adds -/

namespace CreateTable

variable {base c : CreateTable} {column : Ident} {option : ColumnOption} {k : TableConstraint}

/-- The statement lists the name in a primary key among its constraints. -/
def ListsPrimary (c : CreateTable) (n : String) : Prop :=
  ∃ name columns, .primaryKey name columns ∈ c.constraints ∧ ∃ ident ∈ columns, ident.text = n

theorem exists_primaryKey_mem_toDefinitions {n : String} :
    (∃ constraint listed, .primaryKey constraint listed ∈ c.toDefinitions ∧ n ∈ listed) ↔
      c.ListsPrimary n := by
  simp only [primaryKey_mem_toDefinitions]
  constructor
  · rintro ⟨-, -, ⟨name, columns, hk, rfl, rfl⟩, hn⟩
    exact ⟨name, columns, hk, List.mem_map.mp hn⟩
  · rintro ⟨name, columns, hk, hn⟩
    exact ⟨_, _, ⟨name, columns, hk, rfl, rfl⟩, List.mem_map.mpr hn⟩

theorem HasConstraint.columns (h : HasConstraint k base c) : c.columns = base.columns := by
  cases h
  rfl

theorem HasConstraint.name (h : HasConstraint k base c) : c.name = base.name := by
  cases h
  rfl

theorem HasConstraint.mem_constraints (h : HasConstraint k base c) (k' : TableConstraint) :
    k' ∈ c.constraints ↔ k' ∈ base.constraints ∨ k' = k := by
  cases h
  simp only [List.mem_append, List.mem_cons]
  tauto

theorem HasOption.constraints (h : HasOption column option base c) :
    c.constraints = base.constraints := by
  cases h
  rfl

theorem HasOption.name (h : HasOption column option base c) : c.name = base.name := by
  cases h
  rfl

theorem HasOption.columns (h : HasOption column option base c) :
    c.columns.map (fun column => (column.name.text, column.type.render))
      = base.columns.map fun column => (column.name.text, column.type.render) := by
  cases h
  simp

/-- The option is at one place, where its column is; there it marks a primary key if its words
do, and otherwise all columns say what they said before. -/
theorem HasOption.exists_place (h : HasOption column option base c) :
    ∃ place, (base.columns.map (·.name.text))[place]? = some column.text ∧
      ∀ (i : Nat) (holder holder' : ColumnDef), c.columns[i]? = some holder →
        base.columns[i]? = some holder' → (holder.toDeclaration.modifiers.any marksPrimaryKey ↔
          holder'.toDeclaration.modifiers.any marksPrimaryKey ∨
            (i = place ∧ marksPrimaryKey option.toModifier)) := by
  obtain ⟨table, before, after, type, collation, first, last, name, constraints⟩ := h
  refine ⟨before.length, by simp, ?_⟩
  intro i holder holder' hholder hholder'
  by_cases hi : i = before.length
  · subst hi
    obtain rfl : _ = holder := by simpa using hholder
    obtain rfl : _ = holder' := by simpa using hholder'
    simp only [ColumnDef.toDeclaration, List.map_append, List.map_cons, List.any_append,
      List.any_cons, Bool.or_eq_true, true_and, or_assoc]
    exact or_congr_right or_comm
  · have hsame : holder = holder' := by
      simp only [List.getElem?_append, List.getElem?_cons] at hholder hholder'
      split at hholder
      · rw [if_pos ‹_›] at hholder'
        exact Option.some.inj (hholder.symm.trans hholder')
      · rw [if_neg ‹_›, if_neg (by omega)] at hholder'
        rw [if_neg (by omega)] at hholder
        exact Option.some.inj (hholder.symm.trans hholder')
    simp [hsame, hi]

/-- The columns and the constraints where foreign keys are found. -/
theorem declaresKey_iff {n : Ident} {r : Reference} : c.DeclaresKey n r ↔
    (∃ holder ∈ c.columns, ∃ o ∈ holder.options, n = holder.name ∧ o.option = .references r) ∨
      ∃ name others, .foreignKey name (n :: others) r ∈ c.constraints := by
  constructor
  · rintro (⟨hholder, ho, hr⟩ | ⟨hk⟩)
    · exact Or.inl ⟨_, hholder, _, ho, rfl, hr⟩
    · exact Or.inr ⟨_, _, hk⟩
  · rintro (⟨holder, hholder, o, ho, rfl, hr⟩ | ⟨name, others, hk⟩)
    · exact .onColumn hholder ho hr
    · exact .onTable hk

/-- An option adds a foreign key if it is a reference. -/
theorem HasOption.declaresKey_iff (h : HasOption column option base c) {n : Ident} {r : Reference} :
    c.DeclaresKey n r ↔ base.DeclaresKey n r ∨ (n = column ∧ option = .references r) := by
  obtain ⟨table, before, after, type, collation, first, last, name, constraints⟩ := h
  simp only [CreateTable.declaresKey_iff, List.mem_append, List.mem_cons, or_and_right, exists_or,
    exists_eq_left, or_assoc, or_left_comm, or_comm]

/-- A constraint adds a foreign key if it is one that lists a column. -/
theorem HasConstraint.declaresKey_iff (h : HasConstraint k base c) {n : Ident} {r : Reference} :
    c.DeclaresKey n r ↔
      base.DeclaresKey n r ∨ ∃ name others, k = .foreignKey name (n :: others) r := by
  simp only [CreateTable.declaresKey_iff, h.columns, h.mem_constraints, exists_or, or_assoc,
    eq_comm (b := k)]

/-- A constraint adds names to the primary key if it is one. -/
theorem HasConstraint.listsPrimary_iff (h : HasConstraint k base c) {n : String} :
    c.ListsPrimary n ↔ base.ListsPrimary n ∨
      ∃ name columns, k = .primaryKey name columns ∧ ∃ ident ∈ columns, ident.text = n := by
  simp only [ListsPrimary, h.mem_constraints, or_and_right, exists_or, eq_comm (b := k)]

end CreateTable

/-! ### Moving a key -/

namespace CreateTable

variable {base c c' : CreateTable} {column : Ident} {option : ColumnOption} {k : TableConstraint}

/-- A reference is not written like a primary key: already its first letter is another. -/
theorem not_marksPrimaryKey_references (r : Reference) :
    ¬ marksPrimaryKey (ColumnOption.references r).toModifier := by
  intro h
  obtain ⟨rest, hrest⟩ : ∃ rest, r.render.toList = 'R' :: rest := by
    simp only [Reference.render, String.toList_append, String.append_assoc]
    exact ⟨_, rfl⟩
  have hblank : isBlank 'R' = false := by decide
  have hprefix : (trim r.render).toList <+: 'R' :: rest := by
    rw [trim, hrest, List.dropWhile_cons_of_neg (by simp [hblank]), String.toList_ofList]
    simpa using List.reverse_prefix.mpr (List.dropWhile_suffix isBlank (l := ('R' :: rest).reverse))
  have hletters : (trim r.render).toList.map Char.toLower = "primary key".toList := by
    have hfold := sameName_iff.mp h
    have hlower : foldAscii "primary key" = "primary key" := by decide
    rw [hlower, foldAscii] at hfold
    rw [← hfold, String.toList_ofList]
    rfl
  cases hx : (trim r.render).toList with
  | nil => simp [hx] at hletters
  | cons letter _ =>
      rw [hx] at hletters hprefix
      obtain rfl : letter = 'R' := (List.cons_prefix_cons.mp hprefix).1
      simp at hletters

/-- Two statements settle the same table if they have the same columns and the same keys. -/
theorem settled_eq_of_keys (hname : c.name = c'.name)
    (hcolumns : c.columns.map (fun column => (column.name.text, column.type.render))
      = c'.columns.map fun column => (column.name.text, column.type.render))
    (hprimary : ∀ (i : Nat) (holder holder' : ColumnDef), c.columns[i]? = some holder →
      c'.columns[i]? = some holder' → ((holder.toDeclaration.modifiers.any marksPrimaryKey ∨
          ∃ n, IsFirstNamed (c.columns.map (·.name.text)) n i ∧ c.ListsPrimary n) ↔
        (holder'.toDeclaration.modifiers.any marksPrimaryKey ∨
          ∃ n, IsFirstNamed (c.columns.map (·.name.text)) n i ∧ c'.ListsPrimary n)))
    (hclauses : Relationship.SameReferences (clauses (c.name.toTableName, c.toDefinitions))
      (clauses (c'.name.toTableName, c'.toDefinitions))) :
    (Draft.ofDefinitions c.name.toTableName c.toDefinitions).settled
      = (Draft.ofDefinitions c'.name.toTableName c'.toDefinitions).settled := by
  rw [← hname] at hclauses ⊢
  refine Draft.settled_eq_of_same ?_ ?_ hclauses
  · rw [declaredColumns_toDefinitions, declaredColumns_toDefinitions, List.map_map, List.map_map]
    exact hcolumns
  · simp only [declaredColumns_toDefinitions, List.getElem?_map, Option.map_eq_some_iff,
      List.map_map, exists_primaryKey_mem_toDefinitions]
    rintro i - - ⟨holder, hholder, rfl⟩ ⟨holder', hholder', rfl⟩
    exact hprimary i holder holder' hholder hholder'

/-- Statements that declare the same foreign keys have the same references. -/
theorem sameReferences_of_declaresKey
    (hkeys : ∀ n r, c.DeclaresKey n r → ∃ n' r', c'.DeclaresKey n' r' ∧
      Relationship.SameReference (c.keyReference n r) (c'.keyReference n' r'))
    (hkeys' : ∀ n r, c'.DeclaresKey n r → ∃ n' r', c.DeclaresKey n' r' ∧
      Relationship.SameReference (c'.keyReference n r) (c.keyReference n' r')) :
    Relationship.SameReferences (clauses (c.name.toTableName, c.toDefinitions))
      (clauses (c'.name.toTableName, c'.toDefinitions)) := by
  have hhalf : ∀ {c c' : CreateTable}, (∀ n r, c.DeclaresKey n r → ∃ n' r', c'.DeclaresKey n' r' ∧
      Relationship.SameReference (c.keyReference n r) (c'.keyReference n' r')) →
        ∀ q ∈ clauses (c.name.toTableName, c.toDefinitions),
          ∃ p ∈ clauses (c'.name.toTableName, c'.toDefinitions),
            Relationship.SameReference q p := by
    intro c c' hkeys q hq
    obtain ⟨n, r, hkey, rfl⟩ := mem_clauses.mp hq
    obtain ⟨n', r', hkey', hsame⟩ := hkeys n r hkey
    exact ⟨_, mem_clauses.mpr ⟨n', r', hkey', rfl⟩, hsame⟩
  exact ⟨hhalf hkeys, hhalf hkeys'⟩

theorem HasOption.names (h : HasOption column option base c) :
    c.columns.map (·.name.text) = base.columns.map (·.name.text) := by
  have hfst := congrArg (List.map Prod.fst) h.columns
  simpa [Function.comp_def] using hfst

/-- The reference that a foreign key makes is the same under other names of its columns. -/
theorem sameReference_keyReference {n n' : Ident} {r r' : Reference} (hname : c.name = c'.name)
    (hn : sameName n.text n'.text) (hcolumns : r.columns = r'.columns) :
    Relationship.SameReference (c.keyReference n r) (c'.keyReference n' r') := by
  refine ⟨rfl, rfl, ?_, hn, ?_⟩ <;>
    simp [keyReference, hname, hcolumns, Relationship.targetColumn]

/-- A key that is moved leaves the references the same. -/
theorem KeyMoved.sameReferences (h : KeyMoved c c') :
    Relationship.SameReferences (clauses (c.name.toTableName, c.toDefinitions))
      (clauses (c'.name.toTableName, c'.toDefinitions)) := by
  cases h with
  | primaryKey hlisted hoption hconstraint =>
      have hname := hoption.name.trans hconstraint.name.symm
      have hkeys : ∀ n r, c.DeclaresKey n r ↔ c'.DeclaresKey n r := by
        intro n r
        simp [hoption.declaresKey_iff, hconstraint.declaresKey_iff]
      refine sameReferences_of_declaresKey (fun n r hkey => ?_) (fun n r hkey => ?_)
      · exact ⟨n, r, (hkeys n r).mp hkey, sameReference_keyReference hname (sameName_refl _) rfl⟩
      · exact ⟨n, r, (hkeys n r).mpr hkey,
          sameReference_keyReference hname.symm (sameName_refl _) rfl⟩
  | @foreignKey _ column listed r r' hlisted htable hcolumns hoption hconstraint =>
      have hname := hoption.name.trans hconstraint.name.symm
      refine sameReferences_of_declaresKey (fun n q hkey => ?_) (fun n q hkey => ?_)
      · rcases hoption.declaresKey_iff.mp hkey with hbase | ⟨rfl, hr⟩
        · exact ⟨n, q, hconstraint.declaresKey_iff.mpr (Or.inl hbase),
            sameReference_keyReference hname (sameName_refl _) rfl⟩
        · obtain rfl : r = q := by simpa using hr
          refine ⟨listed, r', hconstraint.declaresKey_iff.mpr (Or.inr ⟨none, [], rfl⟩),
            sameReference_keyReference hname ?_ hcolumns.symm⟩
          rwa [sameName_comm]
      · rcases hconstraint.declaresKey_iff.mp hkey with hbase | ⟨name, others, hk⟩
        · exact ⟨n, q, hoption.declaresKey_iff.mpr (Or.inl hbase),
            sameReference_keyReference hname.symm (sameName_refl _) rfl⟩
        · obtain ⟨-, ⟨rfl, -⟩, rfl⟩ : none = name ∧ (listed = n ∧ [] = others) ∧ r' = q := by
            simpa using hk
          exact ⟨column, r, hoption.declaresKey_iff.mpr (Or.inr ⟨rfl, rfl⟩),
            sameReference_keyReference hname.symm hlisted hcolumns⟩

/-- A key that is moved leaves the table the same. -/
theorem KeyMoved.settled_eq (h : KeyMoved c c')
    (hdistinct : c.columns.Pairwise fun a b => ¬ sameName a.name.text b.name.text) :
    (Draft.ofDefinitions c.name.toTableName c.toDefinitions).settled
      = (Draft.ofDefinitions c'.name.toTableName c'.toDefinitions).settled := by
  have hsame := h.sameReferences
  have hnames : (c.columns.map (·.name.text)).Pairwise fun a b => ¬ sameName a b :=
    List.pairwise_map.mpr hdistinct
  cases h with
  | @primaryKey base column listed timing name hlisted hoption hconstraint =>
      refine settled_eq_of_keys (hoption.name.trans hconstraint.name.symm)
        (hconstraint.columns ▸ hoption.columns) ?_ hsame
      obtain ⟨place, hplace, hmarks⟩ := hoption.exists_place
      rw [← hoption.names] at hplace
      intro i holder holder' hholder hholder'
      rw [hconstraint.columns] at hholder'
      have hfirst : IsFirstNamed (c.columns.map (·.name.text)) listed.text i ↔ i = place :=
        (isFirstNamed_congr hlisted i).trans (isFirstNamed_iff_eq hnames hplace)
      have hlists : ∀ n, c'.ListsPrimary n ↔ c.ListsPrimary n ∨ n = listed.text := by
        intro n
        rw [hconstraint.listsPrimary_iff, ListsPrimary, ListsPrimary, hoption.constraints]
        simp [eq_comm]
      have hwritten : marksPrimaryKey (ColumnOption.primaryKey timing).toModifier := by
        have h : sameName (trim "PRIMARY KEY") "primary key" := by decide
        exact h
      rw [hmarks i holder holder' hholder hholder']
      simp only [hlists, hwritten, and_true, and_or_left, exists_or, exists_eq_right, hfirst,
        or_assoc]
      exact or_congr_right or_comm
  | @foreignKey base column listed r r' hlisted htable hcolumns hoption hconstraint =>
      refine settled_eq_of_keys (hoption.name.trans hconstraint.name.symm)
        (hconstraint.columns ▸ hoption.columns) ?_ hsame
      obtain ⟨place, -, hmarks⟩ := hoption.exists_place
      intro i holder holder' hholder hholder'
      rw [hconstraint.columns] at hholder'
      have hlists : ∀ n, c'.ListsPrimary n ↔ c.ListsPrimary n := by
        intro n
        rw [hconstraint.listsPrimary_iff, ListsPrimary, ListsPrimary, hoption.constraints]
        simp
      rw [hmarks i holder holder' hholder hholder']
      simp only [hlists, not_marksPrimaryKey_references, Bool.false_eq_true, and_false, or_false]

/-- A foreign key under another name makes the same reference at the same place. -/
theorem KeyRenamed.clauses_eq (h : KeyRenamed c c') :
    clauses (c.name.toTableName, c.toDefinitions)
      = clauses (c'.name.toTableName, c'.toDefinitions) := by
  obtain ⟨table, columns, above, below, name, name', listed, r⟩ := h
  have hclause :
      (TableConstraint.foreignKey name listed r).toDefinition.clause? table.toTableName.name
        = (TableConstraint.foreignKey name' listed r).toDefinition.clause?
            table.toTableName.name := by
    cases name <;> cases name' <;> rfl
  simp only [Script.clauses, toDefinitions, List.map_append, List.map_cons,
    List.filterMap_append, List.filterMap_cons, hclause]

/-- A foreign key under another name leaves the table the same. -/
theorem KeyRenamed.settled_eq (h : KeyRenamed c c') :
    (Draft.ofDefinitions c.name.toTableName c.toDefinitions).settled
      = (Draft.ofDefinitions c'.name.toTableName c'.toDefinitions).settled := by
  have hclauses := h.clauses_eq
  obtain ⟨table, columns, above, below, name, name', listed, r⟩ := h
  refine settled_eq_of_keys rfl rfl ?_ ?_
  · intro i holder holder' hholder hholder'
    obtain rfl : holder = holder' := Option.some.inj (hholder.symm.trans hholder')
    simp [ListsPrimary]
  · rw [hclauses]
    exact Relationship.sameReferences_refl fun r hr => isReference_of_mem_clauses hr

end CreateTable

/--
**Every form of a key gives the same schema.**  In a statement whose columns have different
names, a primary key or a reference may be taken from its column and put among the
constraints: the tables of the script are the same, and so are its references up to the case
of their names.  A foreign key under another name, or under none, leaves the whole schema as
it is.
-/
theorem schema_of_keyForms (before after : List Statement) (c : CreateTable)
    (hdistinct : c.columns.Pairwise fun a b => ¬ sameName a.name.text b.name.text) :
    (∀ c', c.KeyMoved c' →
      (c.schemaWithin before after).tables = (c'.schemaWithin before after).tables ∧
        Relationship.SameReferences (c.schemaWithin before after).relationships
          (c'.schemaWithin before after).relationships) ∧
      ∀ c', c.KeyRenamed c' → c.schemaWithin before after = c'.schemaWithin before after := by
  have hscript : ∀ c : CreateTable, (before ++ .createTable c :: after).map Statement.toScript
      = before.map Statement.toScript ++ .createTable (some c.name.toTableName) c.toDefinitions
        :: after.map Statement.toScript := by
    intro c
    rw [List.map_append, List.map_cons]
    rfl
  simp only [CreateTable.schemaWithin, hscript]
  constructor
  · intro c' hmoved
    exact ⟨Schema.tables_congr (hmoved.settled_eq hdistinct),
      Schema.sameReferences_congr hmoved.sameReferences⟩
  · intro c' hrenamed
    exact Schema.mk.injEq .. |>.mpr ⟨Schema.tables_congr hrenamed.settled_eq,
      Schema.relationships_congr hrenamed.clauses_eq⟩

/-- A primary key, a reference and a named foreign key, each in its other form. -/
theorem schema_of_keyForms_orders :
    let number : ColumnDef :=
      { name := { text := "number" }, type := .sized "INT" none
        options := [{ option := .notNull }] }
    let keyed : ColumnDef :=
      { number with options := [{ option := .notNull }, { option := .primaryKey {} }] }
    let users : Reference := { table := { base := { text := "users" } } }
    let buyer : ColumnDef := { name := { text := "buyer" }, type := .sized "INT" none }
    let referring : ColumnDef := { buyer with options := [{ option := .references users }] }
    let people : TableConstraint := .foreignKey (some { text := "payer" }) [{ text := "BUYER" }]
      { table := { base := { text := "people" } }, columns := [{ text := "ID" }] }
    let orders (columns : List ColumnDef) (constraints : List TableConstraint) : CreateTable :=
      ⟨{ base := { text := "orders" } }, columns, constraints⟩
    let c := orders [keyed, referring] [people]
    let before : List Statement := [.other]
    (c.columns.Pairwise fun a b => ¬ sameName a.name.text b.name.text) ∧
      (let c' := orders [number, referring] [people, .primaryKey none [{ text := "Number" }]]
       c.KeyMoved c' ∧
        (c.schemaWithin before []).tables = (c'.schemaWithin before []).tables) ∧
      (let c' := orders [keyed, buyer] [people, .foreignKey none [{ text := "buyer" }] users]
       c.KeyMoved c' ∧
        (c.schemaWithin before []).tables = (c'.schemaWithin before []).tables ∧
        Relationship.SameReferences (c.schemaWithin before []).relationships
          (c'.schemaWithin before []).relationships) ∧
      let c' := orders [keyed, referring] [.foreignKey none [{ text := "BUYER" }]
        { table := { base := { text := "people" } }, columns := [{ text := "ID" }] }]
      c.KeyRenamed c' ∧ c.schemaWithin before [] = c'.schemaWithin before [] := by
  intro number keyed users buyer referring people orders c before
  have hdistinct : c.columns.Pairwise fun a b => ¬ sameName a.name.text b.name.text :=
    List.pairwise_pair.mpr (by decide)
  obtain ⟨hmoved, hrenamed⟩ := schema_of_keyForms before [] c hdistinct
  refine ⟨hdistinct, ?_, ?_, ?_⟩
  · intro c'
    have h : c.KeyMoved c' := .primaryKey (by decide)
      (.intro { base := { text := "orders" } } [] [referring] number.type none
        [{ option := .notNull }] [] none [people])
      (.intro { base := { text := "orders" } } [number, referring] [people] [])
    exact ⟨h, (hmoved c' h).1⟩
  · intro c'
    have h : c.KeyMoved c' := .foreignKey (by decide) rfl rfl
      (.intro { base := { text := "orders" } } [keyed] [] buyer.type none [] [] none [people])
      (.intro { base := { text := "orders" } } [keyed, buyer] [people] [])
    exact ⟨h, hmoved c' h⟩
  · intro c'
    have h : c.KeyRenamed c' := .intro _ _ [] [] _ none _ _
    exact ⟨h, hrenamed c' h⟩

end Sql

end TableGraph
