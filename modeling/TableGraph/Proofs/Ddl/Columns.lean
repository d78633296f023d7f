/-
Columns that are read back as they are written.

A column is written in one line, with its primary key as words after its type.  It is read
back if its type is, and if its name does not begin a constraint: an item in the body of a
table is tried as a constraint first.
-/
import TableGraph.Proofs.Ddl.NestedTypes
import TableGraph.Schema.Ddl
import TableGraph.Sql.Parser.CreateTable

namespace TableGraph.Sql

open TableGraph.Sql.Parser

variable {d : Dialect}

/-! ### The type of a column -/

/-- The type of a column that is read back in the dialect as it is written.  Only where a column
needs no type may it have none. -/
def DataType.Writable (d : Dialect) (t : DataType) : Prop :=
  (∃ k, DataType.Plain d k t) ∨ t = .unspecified ∧ d = .sqlite

/-- What may come next after the type of a column. -/
def EndsColumnType (next : Option Token) : Prop :=
  next ∈ [some (.symbol ","), some (.symbol ")"), some (keywordToken "PRIMARY")]

theorem EndsColumnType.endsWholeType {next : Option Token} (h : EndsColumnType next) :
    EndsWholeType next := by
  simp only [EndsColumnType, EndsWholeType, List.mem_cons, List.not_mem_nil, or_false] at h ⊢
  grind

/-- The text is written with these tokens, which are read as the type of a column. -/
structure TypeReads (d : Dialect) (s : String) (t : DataType) (tokens : List Token) : Prop where
  spells : Spells d s tokens EndsTypeText
  reads : ∀ g : Grammar, g.dialect = d → Reads (columnType g) tokens t EndsColumnType
  render_eq : t.render = s

theorem DataType.Writable.typeReads {t : DataType} (h : t.Writable d) :
    ∃ tokens, TypeReads d t.render t tokens := by
  rcases h with ⟨k, h⟩ | ⟨rfl, rfl⟩
  · obtain ⟨w, others, hspells, htyped, hreads⟩ := h.readsBack
    refine ⟨_, hspells, fun g hg found rest hfound hrest => ?_, rfl⟩
    have htype := hreads g hg found rest hfound hrest.endsWholeType
    obtain ⟨place, found, rfl, -⟩ := map_token_eq_cons_iff.mp hfound
    unfold columnType
    by_cases hd : g.dialect = .sqlite
    · have hword : w.isOneOf untypedStops = false := by
        simpa [Word.isOneOf] using htyped (hg ▸ hd)
      simpa [hd, hword] using htype
    · simpa [hd] using htype
  · refine ⟨[], .nil, fun g hg => .of_next fun rest hrest => ?_, rfl⟩
    obtain ⟨dialect, related, expr, query, relation, tail⟩ := g
    obtain rfl : dialect = .sqlite := hg
    simp only [EndsColumnType, List.mem_cons, List.not_mem_nil, or_false, nextOf_eq_some_iff]
      at hrest
    rcases hrest with ⟨place, others, rfl⟩ | ⟨place, others, rfl⟩ | ⟨place, others, rfl⟩
    · rfl
    · rfl
    · rw [keywordToken_eq (by simp)]
      rfl

/-! ### What follows the type -/

/-- The words for the primary key. -/
def primaryTokens (isPrimary : Bool) : List Token :=
  if isPrimary then ["PRIMARY", "KEY"].map keywordToken else []

/-- The options of a column that belongs to the primary key, or of one that does not. -/
def primaryOptions (isPrimary : Bool) : List NamedOption :=
  if isPrimary then [{ option := .primaryKey {} }] else []

namespace Parser

theorem reads_columnTail (g : Grammar) (isPrimary : Bool) :
    Reads (columnTail g) (primaryTokens isPrimary) { options := primaryOptions isPrimary }
      EndsItem := by
  intro found rest hfound hrest
  obtain ⟨s, place, others, rfl⟩ : ∃ s place others, rest = ⟨.symbol s, place⟩ :: others := by
    rcases hrest with hrest | hrest <;> exact ⟨_, nextOf_eq_some_iff.mp hrest⟩
  obtain ⟨dialect, related, expr, query, relation, tail⟩ := g
  cases isPrimary with
  | false =>
      obtain rfl := List.map_eq_nil_iff.mp hfound
      cases dialect <;> rfl
  | true =>
      obtain ⟨p, found', rfl, hfound'⟩ := map_token_eq_cons_iff.mp hfound
      obtain ⟨q, nothing, rfl, hnothing⟩ := map_token_eq_cons_iff.mp hfound'
      obtain rfl := List.map_eq_nil_iff.mp hnothing
      rw [keywordToken_eq (by simp), keywordToken_eq (by simp)]
      cases dialect <;> rfl

end Parser

/-! ### Columns -/

/-- The column as it is declared in canonical text. -/
def canonicalColumn (c : Column) (t : DataType) : ColumnDef where
  name := { text := c.name }
  type := t
  options := primaryOptions c.isPrimary

/-- The tokens of a column whose type has these. -/
def columnTokens (c : Column) (typeTokens : List Token) : List Token :=
  .word (.bare c.name) :: (typeTokens ++ primaryTokens c.isPrimary)

/-- The words that begin a constraint in the body of a table. -/
def Dialect.constraintWords (d : Dialect) : List String :=
  ["CONSTRAINT", "UNIQUE", "PRIMARY", "FOREIGN", "CHECK"]
    ++ (if hasTableIndexes d then ["INDEX", "KEY", "FULLTEXT", "SPATIAL"] else [])

/-- What is written after the line of a column. -/
def EndsLine (next : Option Char) : Prop := next = some ',' ∨ next = some '\n'

theorem EndsLine.endsTypeText {c : Option Char} (h : EndsLine c) : EndsTypeText c := by
  rcases h with rfl | rfl <;> simp [EndsTypeText]

theorem spells_primaryMark (isPrimary : Bool) :
    Spells d (if isPrimary then " PRIMARY KEY" else "") (primaryTokens isPrimary)
      EndsTypeText := by
  cases isPrimary with
  | false => exact .nil
  | true =>
      have htext : " PRIMARY KEY" = " " ++ " ".intercalate ["PRIMARY", "KEY"] := by decide +kernel
      have hwords : ["PRIMARY", "KEY"] ⊆ fixedWords := by simp [fixedWords]
      simp only [if_true, htext]
      exact (spells_fixedPhrase hwords).afterBlank.mono fun _ hc => hc.endsIdentText.endsWord

theorem spells_foreignMark (isForeign : Bool) {next : Option Char → Prop} :
    Spells d (if isForeign then " /* FK */" else "") [] next := by
  cases isForeign with
  | false => exact .nil
  | true => exact Spells.afterBlank (s := "/* FK */") spells_remark

/-- The line of a column is cut into the name of the column, the tokens of its type, and the
words for the primary key. -/
theorem spells_column {c : Column} {t : DataType} {tokens : List Token} (hname : d.isName c.name)
    (htype : TypeReads d c.type t tokens) : Spells d c.toDdl (columnTokens c tokens) EndsLine := by
  have htext : c.toDdl = " " ++ (" " ++ (c.name ++ (" " ++ (c.type ++
      ((if c.isPrimary then " PRIMARY KEY" else "") ++
        (if c.isForeign then " /* FK */" else "")))))) := by
    simp [Column.toDdl, ← String.toList_inj]
  have hmarks : Spells d ((if c.isPrimary then " PRIMARY KEY" else "") ++
      (if c.isForeign then " /* FK */" else "")) (primaryTokens c.isPrimary ++ []) EndsLine :=
    (spells_primaryMark c.isPrimary).append (spells_foreignMark c.isForeign) fun next hnext => by
      cases c.isForeign
      · exact hnext.endsTypeText
      · simp [EndsTypeText]
  rw [List.append_nil] at hmarks
  have htyped : Spells d (c.type ++ ((if c.isPrimary then " PRIMARY KEY" else "") ++
      (if c.isForeign then " /* FK */" else ""))) (tokens ++ primaryTokens c.isPrimary) EndsLine :=
    htype.spells.append hmarks fun next hnext => by
      cases c.isPrimary <;> cases c.isForeign
      · exact hnext.endsTypeText
      all_goals simp [EndsTypeText]
  rw [htext]
  exact (Spells.append (spells_name hname) htyped.afterBlank fun _ _ => by
    simpa using endsWord_of_closer (m := ' ') (by decide)).afterBlank.afterBlank

namespace Parser

theorem reads_columnDef {g : Grammar} {c : Column} {t : DataType} {tokens : List Token}
    (htype : TypeReads g.dialect c.type t tokens) :
    Reads (columnDef g) (columnTokens c tokens) (canonicalColumn c t) EndsItem := by
  have htail : Reads (do
        let tail ← columnTail g
        return ColumnDef.mk ⟨c.name, none⟩ t tail.collation tail.options)
      (primaryTokens c.isPrimary) (canonicalColumn c t) EndsItem :=
    (reads_columnTail g c.isPrimary).bind_nil (.pure _)
  refine (reads_ident (.bare c.name)).bind ?_ (by simp) rfl
  refine (htype.reads g rfl).bind htail (fun next hnext => ?_) rfl
  cases c.isPrimary with
  | false => rcases hnext with rfl | rfl <;> simp [primaryTokens, EndsColumnType]
  | true => simp [primaryTokens, EndsColumnType]

/-- A word that begins no constraint is left for a column. -/
theorem tableConstraint?_none {g : Grammar} {w : Word} (hw : w.capitals ∉ g.dialect.constraintWords)
    (place : Location) (rest : List Lexeme) :
    tableConstraint? g (⟨.word w, place⟩ :: rest) = .ok none (⟨.word w, place⟩ :: rest) := by
  have hnot : ∀ k ∈ g.dialect.constraintWords,
      (nextOf (⟨.word w, place⟩ :: rest)).any (·.isKeyword k) = false := fun k hk =>
    beq_false_of_ne fun heq => hw (heq ▸ hk)
  have hunnamed : after? ["CONSTRAINT"] ident (⟨.word w, place⟩ :: rest)
      = .ok none (⟨.word w, place⟩ :: rest) := by
    have hconstraint := hnot "CONSTRAINT" (by simp [Dialect.constraintWords])
    rw [after?, bind_of_ok (phrase?_of_next [] hconstraint)]
    rfl
  have hkeyword : ∀ k ∈ ["UNIQUE", "PRIMARY", "FOREIGN", "CHECK"],
      keyword? k (⟨.word w, place⟩ :: rest) = .ok false (⟨.word w, place⟩ :: rest) := fun k hk =>
    keyword?_of_next (hnot k (List.mem_append_left _ (List.mem_cons_of_mem _ hk)))
  have hunique := hkeyword "UNIQUE" (by simp)
  have hprimary := hkeyword "PRIMARY" (by simp)
  have hforeign := hkeyword "FOREIGN" (by simp)
  have hcheck := hkeyword "CHECK" (by simp)
  rw [tableConstraint?, bind_of_ok hunnamed]
  unfold namedConstraint?
  by_cases hindexes : hasTableIndexes g.dialect
  · have hindex : ∀ ks ⊆ ["INDEX", "KEY", "FULLTEXT", "SPATIAL"],
        keywordOf? ks (⟨.word w, place⟩ :: rest) = .ok none (⟨.word w, place⟩ :: rest) :=
      fun ks hks => keywordOf?_of_next fun k hk => hnot k (List.mem_append_right _ (by
        rw [if_pos hindexes]
        exact hks hk))
    have hplain : ∀ place?, tableIndex? none place? (⟨.word w, place⟩ :: rest)
        = .ok none (⟨.word w, place⟩ :: rest) := by
      intro place?
      unfold tableIndex?
      simp [hindex ["INDEX", "KEY"] (by simp), hindex ["FULLTEXT", "SPATIAL"] (by simp)]
    simp [hunique, hprimary, hforeign, hcheck, hindexes, hplain]
  · simp [hunique, hprimary, hforeign, hcheck, hindexes]

/-- A column whose name begins no constraint is an item of the body. -/
theorem reads_bodyItem {g : Grammar} {c : Column} {t : DataType} {tokens : List Token}
    (hname : Text.capitals c.name ∉ g.dialect.constraintWords)
    (htype : TypeReads g.dialect c.type t tokens) (b : Body) :
    Reads (bodyItem g b) (columnTokens c tokens)
      { b with columns := canonicalColumn c t :: b.columns } EndsItem := by
  intro found rest hfound hrest
  have hcolumn := reads_columnDef htype found rest hfound hrest
  obtain ⟨place, found, rfl, -⟩ := map_token_eq_cons_iff.mp hfound
  have hnone := tableConstraint?_none (w := .bare c.name) hname place (found ++ rest)
  rw [List.cons_append] at hcolumn ⊢
  rw [bodyItem, bind_of_ok hnone]
  simp [hcolumn]

end Parser

end TableGraph.Sql
