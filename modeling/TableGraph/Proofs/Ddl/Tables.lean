/-
Tables that are read back as they are written.

A statement that creates a table ends where nothing follows that could still be said about
the table, so it is read up to its semicolon.  The semicolon itself belongs to what comes
after: it is taken before the next statement, or at the end of the script.
-/
import TableGraph.Proofs.Ddl.Columns
import TableGraph.Sql.Parser.Statement

namespace TableGraph.Sql

open TableGraph.Sql.Parser

variable {d : Dialect}

/-! ### The body of a table -/

/-- The types that stand for the texts of types, with the tokens these are cut into. -/
abbrev TypeTable := String → DataType × List Token

namespace TypeTable

/-- The tokens of a column. -/
def columnTokens (types : TypeTable) (c : Column) : List Token :=
  Sql.columnTokens c (types c.type).2

/-- The tokens of columns, with commas between them. -/
def bodyTokens (types : TypeTable) : List Column → List Token
  | [] => []
  | c :: cs => types.columnTokens c ++ cs.flatMap fun c => .symbol "," :: types.columnTokens c

/-- The column as it is declared. -/
def column (types : TypeTable) (c : Column) : ColumnDef := canonicalColumn c (types c.type).1

/-- The tokens of a statement that creates a table, up to its semicolon. -/
def tableTokens (types : TypeTable) (t : Table) : List Token :=
  ["CREATE", "TABLE"].map keywordToken ++ .word (.bare t.name) ::
    inParentheses (types.bodyTokens t.columns)

/-- The statement that creates a table. -/
def table (types : TypeTable) (t : Table) : CreateTable where
  name := { base := { text := t.name } }
  columns := t.columns.map types.column

end TypeTable

/-- The column is read back: its name needs no quotes and begins no constraint, and its type is
read as what stands for it. -/
structure ColumnReads (d : Dialect) (types : TypeTable) (c : Column) : Prop where
  isName : d.isName c.name
  noConstraint : Text.capitals c.name ∉ d.constraintWords
  type : TypeReads d c.type (types c.type).1 (types c.type).2

namespace Parser

variable {g : Grammar} {types : TypeTable}

/-- The body of a table with one more column. -/
def Body.with (b : Body) (c : ColumnDef) : Body := { b with columns := c :: b.columns }

theorem foldl_with (columns : List ColumnDef) (b : Body) :
    columns.foldl Body.with b = { b with columns := columns.reverse ++ b.columns } := by
  induction columns generalizing b with
  | nil => rfl
  | cons c columns ih => simp [ih, Body.with]

/-- Columns after the first, each after its comma. -/
theorem reads_columns {columns : List Column} (h : ∀ c ∈ columns, ColumnReads g.dialect types c)
    (b : Body) :
    Reads (loop (bodyStep g) b) (columns.flatMap fun c => .symbol "," :: types.columnTokens c)
      { b with columns := (columns.map types.column).reverse ++ b.columns }
      (· = some (.symbol ")")) := by
  have hstep : ∀ b, ∀ c ∈ columns, Reads (bodyStep g b) (.symbol "," :: types.columnTokens c)
      (some (b.with (types.column c))) EndsItem := fun b c hc =>
    (reads_symbol? ",").bind ((reads_bodyItem (h c hc).noConstraint (h c hc).type b).give some)
      (by simp) rfl
  have hlast : ∀ b, Reads (bodyStep g b) [] none (· = some (.symbol ")")) := fun b =>
    (reads_symbol?_not ",").bind ((reads_nextIs ")").bind_nil (.pure none)) (by simp) rfl
  have hloop := Reads.loop hstep hlast (by simp) (fun _ _ => .inl rfl) (fun _ h => .inr h) b
  rwa [List.append_nil, ← List.foldl_map (f := types.column) (g := Body.with), foldl_with] at hloop

theorem reads_tableBody {columns : List Column} (h : ∀ c ∈ columns, ColumnReads g.dialect types c) :
    Reads (tableBody g) (inParentheses (types.bodyTokens columns))
      { columns := columns.map types.column } fun _ => True := by
  unfold tableBody
  refine (reads_symbol? "(").bind ?_ (by simp) rfl
  cases columns with
  | nil => exact (reads_symbol? ")").bind (.pure _) (by simp) rfl
  | cons c columns =>
      obtain ⟨hc, hcolumns⟩ := List.forall_mem_cons.mp h
      have hclose : Reads (do
            let b ← loop (bodyStep g) { columns := [types.column c] }
            symbol ")"
            return Body.mk b.columns.reverse b.constraints.reverse)
          ((columns.flatMap fun c => .symbol "," :: types.columnTokens c) ++ [.symbol ")"])
          { columns := (c :: columns).map types.column } fun _ => True := by
        refine (reads_columns hcolumns _).bind ?_ (by simp) rfl
        refine (reads_symbol ")").bind ?_ (by simp) rfl
        simpa using Reads.pure _
      refine (reads_symbol?_not ")").bind ?_ (by simp) rfl
      refine (reads_bodyItem hc.noConstraint hc.type {}).bind hclose ?_ ?_
      · cases columns <;> simp [EndsItem]
      · exact List.append_assoc (types.columnTokens c) _ _

/-! ### Statements that create tables -/

/-- The words that an object may be there already are not in canonical text, even where a table
is called like the first of them. -/
theorem ifNotExists_name {w : Word} (place place' : Location) (rest : List Lexeme) :
    ifNotExists (⟨.word w, place⟩ :: ⟨.symbol "(", place'⟩ :: rest)
      = .ok () (⟨.word w, place⟩ :: ⟨.symbol "(", place'⟩ :: rest) := by
  have hnone : afterPhrase? ["IF", "NOT", "EXISTS"]
      (⟨.word w, place⟩ :: ⟨.symbol "(", place'⟩ :: rest) = none := by
    rw [afterPhrase?]
    split <;> rfl
  rw [ifNotExists, forget, phrase?, bind_apply, bind_of_ok get_apply, hnone]
  rfl

/-- Nothing is said about a table after its body. -/
theorem tableOptions_end (place : Location) (rest : List Lexeme) :
    tableOptions g (⟨.symbol ";", place⟩ :: rest) = .ok () (⟨.symbol ";", place⟩ :: rest) := by
  obtain ⟨dialect, related, expr, query, relation, tail⟩ := g
  cases dialect <;> rfl

theorem reads_createTable {t : Table} (h : ∀ c ∈ t.columns, ColumnReads g.dialect types c) :
    Reads (createTable g) (.word (.bare t.name) :: inParentheses (types.bodyTokens t.columns))
      (types.table t) (· = some (.symbol ";")) := by
  intro found rest hfound hrest
  obtain ⟨place, body, rfl, hbody⟩ := map_token_eq_cons_iff.mp hfound
  obtain ⟨place', rest, rfl⟩ := nextOf_eq_some_iff.mp hrest
  have hread := reads_tableBody h body (⟨.symbol ";", place'⟩ :: rest) hbody trivial
  obtain ⟨place'', more, rfl, -⟩ := map_token_eq_cons_iff.mp hbody
  simp only [List.cons_append] at hread ⊢
  generalize hbefore : (⟨.symbol "(", place''⟩ :: (more ++ ⟨.symbol ";", place'⟩ :: rest) :
    List Lexeme) = before at hread ⊢
  have hname : objectName (⟨.word (.bare t.name), place⟩ :: before)
      = .ok { base := { text := t.name } } before := by subst hbefore; rfl
  have hcluster : onCluster before = .ok () before := by subst hbefore; rfl
  have hlike : keywordOf? ["LIKE", "ILIKE"] before = .ok none before := by subst hbefore; rfl
  have hclone : keyword? "CLONE" before = .ok false before := by subst hbefore; rfl
  have hexists : ifNotExists (⟨.word (.bare t.name), place⟩ :: before)
      = .ok () (⟨.word (.bare t.name), place⟩ :: before) := by
    subst hbefore
    exact ifNotExists_name _ _ _
  have hquery : keyword? "AS" (⟨.symbol ";", place'⟩ :: rest)
      = .ok false (⟨.symbol ";", place'⟩ :: rest) := rfl
  unfold createTable
  by_cases hmysql : g.dialect = .mysql <;>
    simp [hexists, hname, hcluster, hlike, hclone, hread, tableOptions_end, hquery, hmysql] <;> rfl

/-- No statement of one dialect begins like one that creates a table. -/
theorem dialectStatement?_createTable (p q : Location) (rest : List Lexeme) :
    dialectStatement? g (⟨keywordToken "CREATE", p⟩ :: ⟨keywordToken "TABLE", q⟩ :: rest)
      = .ok false (⟨keywordToken "CREATE", p⟩ :: ⟨keywordToken "TABLE", q⟩ :: rest) := by
  rw [keywordToken_eq (by simp), keywordToken_eq (by simp)]
  obtain ⟨dialect, related, expr, query, relation, tail⟩ := g
  cases dialect <;> rfl

/-- After the word for a table comes what is created, whatever stands inside statements. -/
theorem create_table {c : CreateTable} {rest rest' : List Lexeme}
    (h : createTable g rest = .ok c rest') (statement : Parser Statement) (place : Location) :
    create g statement (⟨keywordToken "TABLE", place⟩ :: rest) = .ok (.createTable c) rest' := by
  rw [keywordToken_eq (by simp)]
  have hreplaceable : createReplaceable? g (⟨.word ⟨"TABLE", none, "TABLE"⟩, place⟩ :: rest)
      = (do return some (.createTable (← createTable g)) : Parser _) rest := rfl
  rw [bind_of_ok h] at hreplaceable
  obtain ⟨others, hsome, hbegin⟩ : ∃ others : Option Statement → Parser Statement,
      (∀ created, others (some created) = pure created) ∧
      create g statement (⟨.word ⟨"TABLE", none, "TABLE"⟩, place⟩ :: rest)
        = (createReplaceable? g >>= others) (⟨.word ⟨"TABLE", none, "TABLE"⟩, place⟩ :: rest) :=
    ⟨_, fun _ => rfl, rfl⟩
  rw [hbegin, bind_of_ok hreplaceable, hsome]
  rfl

theorem reads_create {t : Table} (h : ∀ c ∈ t.columns, ColumnReads g.dialect types c)
    (statement : Parser Statement) :
    Reads (statementBody g statement) (types.tableTokens t) (.createTable (types.table t))
      (· = some (.symbol ";")) := by
  intro found rest hfound hrest
  obtain ⟨p, found', rfl, hfound'⟩ := map_token_eq_cons_iff.mp hfound
  obtain ⟨q, body, rfl, hbody⟩ := map_token_eq_cons_iff.mp hfound'
  have hcreate := create_table (reads_createTable h body rest hbody hrest) statement q
  rw [statementBody, List.cons_append, List.cons_append,
    bind_of_ok (dialectStatement?_createTable p q (body ++ rest)),
    keywordToken_eq (k := "CREATE") (by simp)]
  exact hcreate

/-! ### Scripts of such statements -/

/-- One more statement, after which a semicolon is needed. -/
def Progress.with (p : Progress) (s : Statement) : Progress :=
  { found := s :: p.found, separated := false }

theorem found_foldl_with (found : List Statement) (p : Progress) :
    (found.foldl Progress.with p).found = found.reverse ++ p.found := by
  induction found generalizing p with
  | nil => rfl
  | cons s found ih => simp [ih, Progress.with]

/-- A statement is read with the semicolons before it, if there are some or none are needed. -/
theorem reads_statementStep {statement : Parser Statement} {tokens : List Token} {s : Statement}
    (semicolons : Nat) (p : Progress) (hs : Reads statement tokens s (· = some (.symbol ";")))
    (hhead : ∃ w, tokens.head? = some (.word w)) (hsep : p.separated ∨ semicolons ≠ 0) :
    Reads (statementStep statement p) (List.replicate semicolons (.symbol ";") ++ tokens)
      (some (p.with s)) (· = some (.symbol ";")) := by
  obtain ⟨w, hw⟩ := hhead
  unfold statementStep
  refine (reads_manySymbol ";" semicolons).bind ?_ (by simp [hw]) rfl
  intro found rest hfound hrest
  have hnext : nextOf (found ++ rest) = some (.word w) := by simp [nextOf_append, hfound, hw]
  have hread := hs found rest hfound hrest
  have hseparated : ¬ (p.separated = false ∧ semicolons = 0) := by
    rcases hsep with hsep | hsep <;> simp [hsep]
  simp [hnext, hseparated, hread, Progress.with]

/-- At the end of a script there is no more statement. -/
theorem reads_statementStep_none {statement : Parser Statement} (semicolons : Nat)
    (p : Progress) :
    Reads (statementStep statement p) (List.replicate semicolons (.symbol ";")) none
      (· = none) := by
  unfold statementStep
  refine (reads_manySymbol ";" semicolons).bind (.of_next fun rest hrest => ?_) (by simp)
    (List.append_nil _).symm
  simp [hrest]

/-- The semicolons may be counted to what stands before them or to what follows. -/
theorem flatMap_shift {β : Type} (tokensOf : β → List Token) (t : Token) (b : β) (items : List β) :
    (b :: items).flatMap (fun b => tokensOf b ++ [t])
      = tokensOf b ++ (items.flatMap (fun b => t :: tokensOf b) ++ [t]) := by
  induction items generalizing b with
  | nil => simp
  | cons b' items ih =>
      rw [List.flatMap_cons, ih]
      simp

/-- Statements that are read one after the other, each with its semicolon. -/
theorem reads_statementsOf {β : Type} {statement : Parser Statement} {tokensOf : β → List Token}
    {value : β → Statement} {items : List β}
    (hread : ∀ b ∈ items, Reads statement (tokensOf b) (value b) (· = some (.symbol ";")))
    (hhead : ∀ b ∈ items, ∃ w, (tokensOf b).head? = some (.word w)) :
    Reads (statementsOf statement) (items.flatMap fun b => tokensOf b ++ [.symbol ";"])
      (items.map value) (· = none) := by
  intro found rest hfound hrest
  cases items with
  | nil =>
      obtain rfl := List.map_eq_nil_iff.mp hfound
      have hnone : statementStep statement {} rest = .ok none rest :=
        reads_statementStep_none 0 {} [] rest rfl hrest
      rw [List.nil_append, statementsOf, bind_of_ok (loop_of_none hnone)]
      rfl
  | cons b items =>
      obtain ⟨hb, hitems⟩ := List.forall_mem_cons.mp hread
      obtain ⟨hbhead, hitemsHead⟩ := List.forall_mem_cons.mp hhead
      rw [flatMap_shift] at hfound
      obtain ⟨first, others, rfl, hfirst, hothers⟩ := List.map_eq_append_iff.mp hfound
      obtain ⟨w, hw⟩ := hbhead
      have hne : first ≠ [] := by
        rintro rfl
        rw [← hfirst] at hw
        cases hw
      obtain ⟨l, more, rfl⟩ := List.exists_cons_of_ne_nil hne
      have hnext : nextOf (others ++ rest) = some (.symbol ";") := by
        rw [nextOf_append, hothers]
        cases items <;> rfl
      -- the first statement has no semicolon before it and needs none; the others have one each
      have hstart := reads_statementStep 0 {} hb ⟨w, hw⟩ (.inl rfl) (l :: more) (others ++ rest)
        hfirst hnext
      have hstep : ∀ p, ∀ x ∈ items, Reads (statementStep statement p)
          (.symbol ";" :: tokensOf x) (some (p.with (value x))) (· = some (.symbol ";")) :=
        fun p x hx => reads_statementStep 1 p (hitems x hx) (hitemsHead x hx) (.inr one_ne_zero)
      have hlength : items.length ≤ (more ++ (others ++ rest)).length := by
        have := length_le_of_tokens hothers (by simp)
        simp only [List.length_append]
        omega
      have hrounds := iterate_items hstep (reads_statementStep_none 1) (by simp) (fun _ _ => rfl)
        (fun _ _ => rfl) (Progress.with {} (value b)) _ hothers hrest hlength
      have hloop : loop (statementStep statement) {} (l :: more ++ others ++ rest)
          = .ok (items.foldl (fun p x => p.with (value x)) (Progress.with {} (value b))) rest := by
        rw [loop_apply, List.append_assoc]
        exact (iterate_of_some hstart l _).trans hrounds
      rw [statementsOf, bind_of_ok hloop, ← List.foldl_map (f := value) (g := Progress.with),
        found_foldl_with]
      simp [Progress.with]

end Parser

/-! ### The text of a table -/

theorem spells_body {types : TypeTable} {columns : List Column}
    (h : ∀ c ∈ columns, ColumnReads d types c) :
    Spells d (",\n".intercalate (columns.map Column.toDdl)) (types.bodyTokens columns)
      EndsLine := by
  cases columns with
  | nil => exact .nil
  | cons c columns =>
      obtain ⟨hc, hcolumns⟩ := List.forall_mem_cons.mp h
      have hcomma : Spells d "," [.symbol ","] fun _ => True := spells_mark (by simp)
      have hnewline : Spells d "\n" [] fun _ => True := spells_newline
      have hline : ∀ c, ColumnReads d types c →
          Spells d c.toDdl (types.columnTokens c) EndsLine := fun c hc =>
        spells_column hc.isName hc.type
      have hsep : Spells d ",\n" [.symbol ","] fun _ => True := hcomma.append hnewline (by simp)
      exact Spells.intercalate Column.toDdl types.columnTokens (hline c hc)
        (fun x hx => hsep.append (hline x (hcolumns x hx)) (by simp)) (fun _ _ => .inl rfl)
        (by simp)

theorem spells_table {types : TypeTable} {t : Table} (hname : d.isName t.name)
    (h : ∀ c ∈ t.columns, ColumnReads d types c) :
    Spells d t.toDdl (types.tableTokens t ++ [.symbol ";"]) fun _ => True := by
  have hwords : ["CREATE", "TABLE"] ⊆ fixedWords := by simp [fixedWords]
  have hcreate : "CREATE TABLE" = " ".intercalate ["CREATE", "TABLE"] := by decide +kernel
  have htext : t.toDdl = "CREATE TABLE" ++ (" " ++ (t.name ++ (" " ++ ("(" ++ ("\n" ++
      (",\n".intercalate (t.columns.map Column.toDdl) ++ ("\n" ++ (")" ++ ";")))))))) := by
    simp [Table.toDdl, ← String.toList_inj]
  have hnewline : Spells d "\n" [] fun _ => True := spells_newline
  have hopen : Spells d "(" [.symbol "("] fun _ => True := spells_mark (by simp)
  have hclose : Spells d ")" [.symbol ")"] fun _ => True := spells_mark (by simp)
  have hend : Spells d ";" [.symbol ";"] fun _ => True := spells_mark (by simp)
  have hlast := hnewline.append (hclose.append hend (by simp)) (by simp)
  have hbody := (spells_body h).append hlast (fun _ _ => .inr rfl)
  have hlist := hopen.append (hnewline.append hbody (by simp)) (by simp)
  have hblank : ∀ s : String, ∀ c, EndsWord d ((" " ++ s).toList.head?.or c) := fun s c => by
    simpa using endsWord_of_closer (m := ' ') (by decide)
  have hnamed := (spells_name hname).append hlist.afterBlank (fun c _ => hblank _ c)
  have hwhole := (spells_fixedPhrase hwords).append hnamed.afterBlank (fun c _ => hblank _ c)
  have htokens : types.tableTokens t ++ [.symbol ";"]
      = ["CREATE", "TABLE"].map keywordToken ++ ([.word (.bare t.name)] ++ ([.symbol "("] ++
        ([] ++ (types.bodyTokens t.columns ++ ([] ++ ([.symbol ")"] ++ [.symbol ";"])))))) := by
    simp [TypeTable.tableTokens, inParentheses]
  rw [htext, htokens, hcreate]
  exact hwhole

end TableGraph.Sql
