/-
What is read back from reconstructed statements.

A reconstructed statement names everything as the analysis does: without quotes.  Where the
names are words that need none, and the types are written as they are read, the statements
are read back as the same tables, whatever script the tables come from.  Where a name
needs its quotes the text is no longer a script of its dialect.
-/
import TableGraph.Analysis
import TableGraph.Proofs.Ddl.Tables

namespace TableGraph

open Sql Sql.Parser Script Text

/-- The column is written as it is read in the dialect: its name needs no quotes and begins no
constraint, and its type is one that is read back. -/
structure Column.Writable (d : Dialect) (c : Column) : Prop where
  isName : d.isName c.name
  noConstraint : Text.capitals c.name ∉ d.constraintWords
  type : ∃ t : DataType, t.Writable d ∧ t.render = c.type

/-- The table is written as it is read in the dialect. -/
structure Table.Writable (d : Dialect) (t : Table) : Prop where
  isName : d.isName t.name
  columns : ∀ c ∈ t.columns, c.Writable d

/-- The table as it is before any references are known. -/
def Table.unreferenced (t : Table) : Table :=
  { t with columns := t.columns.map fun c => { c with isForeign := false } }

variable {d : Dialect} {tables : List Table}

/-! ### From texts to statements -/

/-- What is written for a type determines tokens for it, and a type that they are read as. -/
theorem exists_types (d : Dialect) :
    ∃ types : TypeTable, ∀ c : Column, c.Writable d → ColumnReads d types c := by
  have hchoice : ∀ s : String, ∃ entry : DataType × List Token,
      (∃ t : DataType, t.Writable d ∧ t.render = s) → TypeReads d s entry.1 entry.2 := by
    intro s
    by_cases h : ∃ t : DataType, t.Writable d ∧ t.render = s
    · obtain ⟨t, ht, rfl⟩ := h
      obtain ⟨tokens, hreads⟩ := ht.typeReads
      exact ⟨(t, tokens), fun _ => hreads⟩
    · exact ⟨(.unspecified, []), fun h' => absurd h' h⟩
  choose types htypes using hchoice
  exact ⟨types, fun c hc => ⟨hc.isName, hc.noConstraint, htypes c.type hc.type⟩⟩

/-- The text of the tables is cut into the tokens of their statements. -/
theorem spells_ddlScript {types : TypeTable} (hname : ∀ t ∈ tables, d.isName t.name)
    (h : ∀ t ∈ tables, ∀ c ∈ t.columns, ColumnReads d types c) :
    Spells d (ddlScript tables) (tables.flatMap fun t => types.tableTokens t ++ [.symbol ";"])
      fun _ => True := by
  have hnewline : Spells d "\n" [] fun _ => True := spells_newline
  have hline : ∀ t ∈ tables, Spells d (t.toDdl ++ "\n")
      (types.tableTokens t ++ [.symbol ";"]) fun _ => True := by
    intro t ht
    have hlast := (spells_table (hname t ht) (h t ht)).append hnewline (by simp)
    rwa [List.append_nil] at hlast
  cases tables with
  | nil => exact .nil
  | cons t tables =>
      obtain ⟨ht, htables⟩ := List.forall_mem_cons.mp hline
      have hothers : ∀ x ∈ tables, Spells d ("\n" ++ (x.toDdl ++ "\n"))
          ([] ++ (types.tableTokens x ++ [.symbol ";"])) fun _ => True := fun x hx =>
        hnewline.append (htables x hx) (by simp)
      exact Spells.intercalate (fun t : Table => t.toDdl ++ "\n")
        (fun t => types.tableTokens t ++ [.symbol ";"]) ht hothers (by simp) (by simp)

/-- The statements of the tables are read one after the other. -/
theorem parse_ddlScript {types : TypeTable} (hname : ∀ t ∈ tables, d.isName t.name)
    (h : ∀ t ∈ tables, ∀ c ∈ t.columns, ColumnReads d types c) :
    Sql.parse d (ddlScript tables)
      = .ok (tables.map fun t => .createTable (types.table t)) := by
  obtain ⟨found, hfound, htokens⟩ := (spells_ddlScript hname h).lexemes trivial
  have hread : ∀ t ∈ tables, Reads (statementWithin d depthLimit) (types.tableTokens t)
      (.createTable (types.table t)) (· = some (.symbol ";")) := by
    intro t ht
    exact reads_create (g := grammar d 49) (h t ht) _
  have hstatements := reads_statementsOf hread (fun t _ => ⟨_, rfl⟩) found [] htokens rfl
  rw [List.append_nil] at hstatements
  simp [Sql.parse, hfound, Parser.statements, hstatements, bind, Except.bind]

/-! ### From statements to tables -/

/-- Drafts without constraints are the tables themselves. -/
theorem ofDrafts_of_no_constraints {drafts : List Draft} (h : ∀ x ∈ drafts, x.constraints = []) :
    Schema.ofDrafts drafts = { tables := drafts.map (·.table) } := by
  have hfold : ∀ s : Schema, drafts.foldl Schema.addDraft s
      = { s with tables := s.tables ++ drafts.map (·.table) } := by
    induction drafts with
    | nil => simp
    | cons x drafts ih =>
        intro s
        obtain ⟨hx, hdrafts⟩ := List.forall_mem_cons.mp h
        rw [List.foldl_cons, ih hdrafts]
        simp [Schema.addDraft, Draft.resolve, hx]
  simpa [Schema.ofDrafts] using hfold {}

/-- The declaration of a column in canonical text. -/
def Column.declaration (c : Column) : ColumnDeclaration where
  name := c.name
  type := c.type
  modifiers := if c.isPrimary then ["PRIMARY KEY"] else []

theorem columnOf_declaration (c : Column) :
    Draft.columnOf c.declaration = { c with isForeign := false } := by
  have hmark : marksPrimaryKey "PRIMARY KEY" = true := by decide +kernel
  obtain ⟨name, type, isPrimary, isForeign⟩ := c
  cases isPrimary <;> simp [Draft.columnOf, Column.declaration, hmark]

theorem toDefinitions_column {types : TypeTable} {c : Column} (h : ColumnReads d types c) :
    (types.column c).toDefinitions = [.column c.declaration] := by
  have htype := h.type.render_eq
  obtain ⟨name, type, isPrimary, isForeign⟩ := c
  cases isPrimary <;>
    simp [ColumnDef.toDefinitions, TypeTable.column, canonicalColumn, primaryOptions,
      ColumnDef.toDeclaration, ColumnDef.foreignKey?, ColumnOption.toModifier, Column.declaration,
      htype]

/-- The statement for a table creates it. -/
theorem ofStatement?_table {types : TypeTable} {t : Table}
    (h : ∀ c ∈ t.columns, ColumnReads d types c) :
    Draft.ofStatement? (Sql.Statement.createTable (types.table t)).toScript
      = some ⟨t.unreferenced, []⟩ := by
  have hdefinitions : (types.table t).toDefinitions
      = t.columns.map fun c => .column c.declaration := by
    rw [CreateTable.toDefinitions, TypeTable.table, List.map_nil, List.append_nil,
      List.flatMap_map, List.map_eq_flatMap]
    exact List.flatMap_congr fun c hc => toDefinitions_column (h c hc)
  have hcolumns : ∀ columns : List Column,
      (columns.map fun c => Definition.column c.declaration).filterMap Definition.column?
        = columns.map Column.declaration := by
    intro columns
    simp [List.filterMap_map, Definition.column?, Function.comp_def]
  have hnone : ∀ columns : List Column,
      (columns.map fun c => Definition.column c.declaration).filter (·.column?.isNone) = [] := by
    intro columns
    simp [Definition.column?]
  rw [Sql.Statement.toScript, hdefinitions]
  simp [Draft.ofStatement?, Draft.ofDefinitions, hcolumns, hnone, Table.unreferenced,
    columnOf_declaration, TypeTable.table, ObjectName.toTableName]

theorem ofScript_tables {types : TypeTable}
    (h : ∀ t ∈ tables, ∀ c ∈ t.columns, ColumnReads d types c) :
    Draft.ofScript ((tables.map fun t => Sql.Statement.createTable (types.table t)).map
      Sql.Statement.toScript) = tables.map fun t => ⟨t.unreferenced, []⟩ := by
  rw [Draft.ofScript, List.map_map, List.filterMap_map, ← List.filterMap_eq_map]
  exact List.filterMap_congr fun t ht => ofStatement?_table (h t ht)

/-- **Tables whose names need no quotes and whose types are plain are read back** from the
statements that are written for them, as they were but for the references. -/
theorem readScript_ddlScript (h : ∀ t ∈ tables, t.Writable d) :
    ∃ statements, readScript (.fixed d) (ddlScript tables) = .ok statements ∧
      Schema.ofScript statements = { tables := tables.map Table.unreferenced } := by
  obtain ⟨types, htypes⟩ := exists_types d
  have hcolumns : ∀ t ∈ tables, ∀ c ∈ t.columns, ColumnReads d types c := fun t ht c hc =>
    htypes c ((h t ht).columns c hc)
  have hparse := parse_ddlScript (fun t ht => (h t ht).isName) hcolumns
  refine ⟨_, by rw [readScript, DialectChoice.resolve, hparse]; rfl, ?_⟩
  rw [Schema.ofScript, ofScript_tables hcolumns, ofDrafts_of_no_constraints (by simp),
    List.map_map]
  rfl

/-- Keys, lengths, arrays in angles and in brackets, and a name in quotes are read back. -/
theorem readScript_ddlScript_orders :
    let orders : Table := ⟨"orders", [⟨"id", "INT", true, false⟩,
      ⟨"user_id", "VARCHAR(40)", false, true⟩, ⟨"tags", "ARRAY<ARRAY<TEXT>>", false, false⟩,
      ⟨"state", "\"OrderState\"[]", false, false⟩]⟩
    let tables : List Table := [orders, ⟨"log", []⟩]
    (∀ t ∈ tables, t.Writable .postgresql) ∧
      ∃ statements, readScript (.fixed .postgresql) (ddlScript tables) = .ok statements ∧
        Schema.ofScript statements = { tables := tables.map Table.unreferenced } := by
  intro orders tables
  have hint : DataType.Simple .postgresql (.sized "INT" none) :=
    .formed (by decide +kernel : (TypeForm.whole, ["INT"]) ∈ typePhrases)
      (.whole (by simp [FitsLength]))
  have hvarchar : DataType.Simple .postgresql (.text "VARCHAR" (some (.count 40 .unstated))) :=
    .formed (by decide +kernel : (TypeForm.text, ["VARCHAR"]) ∈ typePhrases)
      (.text (by simp [TextLength.Fits]))
  have htext : DataType.Simple .postgresql (.sized "TEXT" none) :=
    .formed (by decide +kernel : (TypeForm.bare, ["TEXT"]) ∈ typePhrases) .bare
  have htexts : DataType.Plain .postgresql 2 (.arrayOf (.arrayOf (.sized "TEXT" none))) := by
    refine .arrayOf (.arrayOf (.simple htext) ?_ ?_) ?_ ?_ <;>
      simp [AfterAngle, DataType.render, renderLength]
    all_goals decide
  have hstate : DataType.Simple .postgresql
      (.custom { base := { text := "OrderState", quote := some '"' } } []) :=
    .custom (by simp [ObjectName.parts, Ident.Plain]; decide +kernel)
      (by simp [ObjectName.parts]; decide +kernel) (by simp)
  have hcolumns : ∀ c ∈ orders.columns, c.Writable .postgresql := by
    intro c hc
    simp only [orders, List.mem_cons, List.not_mem_nil, or_false] at hc
    rcases hc with rfl | rfl | rfl | rfl
    · exact ⟨by decide +kernel, by decide +kernel, _, .inl ⟨_, .simple hint⟩, by decide +kernel⟩
    · exact ⟨by decide +kernel, by decide +kernel, _, .inl ⟨_, .simple hvarchar⟩,
        by decide +kernel⟩
    · exact ⟨by decide +kernel, by decide +kernel, _, .inl ⟨_, htexts⟩, by decide +kernel⟩
    · exact ⟨by decide +kernel, by decide +kernel, .array (.custom _ []) none,
        .inl ⟨_, .array (.simple hstate) (.inl rfl) ⟨by simp, by simp⟩⟩, by decide +kernel⟩
  have htables : ∀ t ∈ tables, t.Writable .postgresql := by
    intro t ht
    simp only [tables, List.mem_cons, List.not_mem_nil, or_false] at ht
    rcases ht with rfl | rfl
    · exact ⟨by decide +kernel, hcolumns⟩
    · exact ⟨by decide +kernel, by simp⟩
  exact ⟨htables, readScript_ddlScript htables⟩

/-- A table whose name needs quotes is written without them, and its statement is not read. -/
theorem ddlScript_unreadable_quotedName :
    ∃ a, Analysis.ofText (.fixed .generic) {} "CREATE TABLE \"order items\" (id INT);" = .ok a ∧
      a.schema.tables = [⟨"order items", [⟨"id", "INT", false, false⟩]⟩] ∧
      ∀ statements, readScript (.fixed .generic) (ddlScript a.schema.tables) ≠ .ok statements := by
  have hread : readScript (.fixed .generic) "CREATE TABLE \"order items\" (id INT);"
      = .ok [.createTable (some ⟨none, "order items"⟩) [.column ⟨"id", "INT", []⟩]] := by
    decide +kernel
  have hblank : isBlankText "CREATE TABLE \"order items\" (id INT);" = false := by decide +kernel
  have htables : (Analysis.ofScript {} [.createTable (some ⟨none, "order items"⟩)
      [.column ⟨"id", "INT", []⟩]]).schema.tables
        = [⟨"order items", [⟨"id", "INT", false, false⟩]⟩] := by
    decide +kernel
  have hfails : (readScript (.fixed .generic)
      (ddlScript [⟨"order items", [⟨"id", "INT", false, false⟩]⟩])).isOk = false := by
    decide +kernel
  refine ⟨Analysis.ofScript {} [.createTable (some ⟨none, "order items"⟩)
    [.column ⟨"id", "INT", []⟩]], ?_, htables, fun statements hok => ?_⟩
  · rw [Analysis.ofText, hblank, hread]
    rfl
  · rw [htables] at hok
    rw [hok] at hfails
    cases hfails

end TableGraph
