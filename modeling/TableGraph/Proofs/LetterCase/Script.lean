/-
Scripts in one spelling.

The names of a script are those of its tables and columns, wherever they occur: where they
are declared, in the lists of a key, and where a foreign key refers to them.  The modifiers
of a column are no names, but they are compared in the same way, after the white space
around them has been cut off; and no letter is white space.  The names of constraints, the
schemas that tables are in and the types of columns are left as they are.

Folding a script first and declaring its schema, or the other way round, comes to the same:
it is so for one item, for one draft, and for all of them.
-/
import TableGraph.Proofs.LetterCase.Names
import TableGraph.Proofs.Schema.Constraints

namespace TableGraph

open Text

/-! ### White space -/

namespace Text

/-- No letter is white space. -/
theorem isBlank_eq_false_of_isAlpha {c : Char} (h : c.isAlpha) : isBlank c = false := by
  have hrange : 65 ≤ c.toNat ∧ c.toNat ≤ 122 := by
    rcases Bool.or_eq_true_iff.mp h with hupper | hlower
    · have hcapital : 65 ≤ c.toNat ∧ c.toNat ≤ 90 := by
        simpa [Char.isUpper, UInt32.le_iff_toNat_le, ← Char.toNat_val] using hupper
      omega
    · have hsmall : 97 ≤ c.toNat ∧ c.toNat ≤ 122 := by
        simpa [Char.isLower, UInt32.le_iff_toNat_le, ← Char.toNat_val] using hlower
      omega
  simp only [isBlank, inRanges, blankRanges, List.any_cons, List.any_nil, Bool.or_false,
    Bool.or_eq_false_iff, Bool.and_eq_false_imp, decide_eq_true_eq, decide_eq_false_iff_not, not_le]
  omega

theorem isBlank_toLower (c : Char) : isBlank c.toLower = isBlank c := by
  by_cases h : c.isUpper
  · have hc : c.isAlpha := by simp [Char.isAlpha, h]
    rw [isBlank_eq_false_of_isAlpha hc,
      isBlank_eq_false_of_isAlpha (by rw [Char.isAlpha_toLower_eq_isAlpha]; exact hc)]
  · rw [Char.toLower_eq_of_not_isUpper h]

theorem trim_foldAscii (s : String) : trim (foldAscii s) = foldAscii (trim s) := by
  have hdrop : ∀ l : List Char,
      (l.map Char.toLower).dropWhile isBlank = (l.dropWhile isBlank).map Char.toLower := by
    intro l
    rw [List.dropWhile_map]
    congr 2
    funext c
    exact isBlank_toLower c
  simp [trim, foldAscii, hdrop, ← List.map_reverse]

end Text

/-! ### Scripts -/

namespace Script

/-- The table's name folded; the schema it is in is left as it is. -/
def TableName.foldCase (t : TableName) : TableName := { t with name := foldAscii t.name }

/-- The declaration with the column's name and its modifiers folded. -/
def ColumnDeclaration.foldCase (d : ColumnDeclaration) : ColumnDeclaration :=
  { d with name := foldAscii d.name, modifiers := d.modifiers.map foldAscii }

/-- The foreign key with its columns, its table and the columns it refers to folded. -/
def ForeignKey.foldCase (key : ForeignKey) : ForeignKey :=
  { key with columns := key.columns.map foldAscii
             table := key.table.foldCase
             referred := key.referred.map foldAscii }

/-- The item with the names of tables and columns in it folded. -/
def Definition.foldCase : Definition → Definition
  | .column declaration => .column declaration.foldCase
  | .primaryKey name columns => .primaryKey name (columns.map foldAscii)
  | .namedForeignKey key => .namedForeignKey key.foldCase
  | .foreignKey key => .foreignKey key.foldCase
  | .other name => .other name

/-- The statement with the names of tables and columns in it folded. -/
def Statement.foldCase : Statement → Statement
  | .createTable table definitions =>
    .createTable (table.map TableName.foldCase) (definitions.map Definition.foldCase)
  | .other => .other

/-! ### Items -/

theorem Definition.column?_foldCase (item : Definition) :
    item.foldCase.column? = item.column?.map ColumnDeclaration.foldCase := by
  cases item <;> rfl

theorem Definition.primaryNames_foldCase (item : Definition) :
    item.foldCase.primaryNames = item.primaryNames.map foldAscii := by
  cases item <;> rfl

theorem ForeignKey.reference?_foldCase (owner : String) (key : ForeignKey) :
    key.foldCase.reference? (foldAscii owner)
      = (key.reference? owner).map Relationship.foldCase := by
  obtain ⟨name, columns, table, referred⟩ := key
  cases columns <;> cases referred <;> rfl

theorem Definition.reference?_foldCase (owner : String) (item : Definition) :
    item.foldCase.reference? (foldAscii owner)
      = (item.reference? owner).map Relationship.foldCase := by
  cases item with
  | namedForeignKey key => exact ForeignKey.reference?_foldCase owner key
  | foreignKey key => exact ForeignKey.reference?_foldCase owner key
  | column declaration => rfl
  | primaryKey name columns => rfl
  | other name => rfl

end Script

open Script

/-- The modifier of a folded column says what it said before. -/
theorem marksPrimaryKey_foldAscii (modifier : String) :
    marksPrimaryKey (foldAscii modifier) = marksPrimaryKey modifier := by
  rw [marksPrimaryKey, trim_foldAscii, sameName_foldAscii_left, marksPrimaryKey]

/-! ### Drafts -/

namespace Draft

/-- The draft with all its names folded. -/
def foldCase (d : Draft) : Draft where
  table := d.table.foldCase
  constraints := d.constraints.map Definition.foldCase

theorem columnOf_foldCase (declaration : ColumnDeclaration) :
    columnOf declaration.foldCase = (columnOf declaration).foldCase := by
  simp [columnOf, ColumnDeclaration.foldCase, Column.foldCase, List.any_map, Function.comp_def,
    marksPrimaryKey_foldAscii]

theorem ofDefinitions_foldCase (table : TableName) (definitions : List Definition) :
    ofDefinitions table.foldCase (definitions.map Definition.foldCase)
      = (ofDefinitions table definitions).foldCase := by
  have hcolumns : (definitions.map Definition.foldCase).filterMap Definition.column?
      = (definitions.filterMap Definition.column?).map ColumnDeclaration.foldCase := by
    rw [List.filterMap_map, List.map_filterMap]
    congr 1
    funext item
    exact Definition.column?_foldCase item
  have hrest : (definitions.map Definition.foldCase).filter (·.column?.isNone)
      = (definitions.filter (·.column?.isNone)).map Definition.foldCase := by
    rw [List.filter_map]
    simp only [Function.comp_def, Definition.column?_foldCase, Option.isNone_map]
  simp [ofDefinitions, foldCase, Table.foldCase, hcolumns, hrest, TableName.foldCase,
    Function.comp_def, columnOf_foldCase]

theorem ofScript_foldCase (statements : List Statement) :
    ofScript (statements.map Statement.foldCase) = (ofScript statements).map foldCase := by
  rw [ofScript, List.filterMap_map, ofScript, List.map_filterMap]
  congr 1
  funext statement
  cases statement with
  | other => rfl
  | createTable table definitions =>
      cases table with
      | none => rfl
      | some table =>
          exact congrArg some (ofDefinitions_foldCase table definitions)

theorem offers_foldCase (d : Draft) : d.foldCase.offers = d.offers.map Relationship.foldCase := by
  rw [offers, offers, List.map_filterMap]
  simp only [foldCase, Table.name_foldCase, List.filterMap_map]
  congr 1
  funext item
  exact Definition.reference?_foldCase d.table.name item

/-- Folded names find the columns that they found before. -/
theorem settled_foldCase (d : Draft) : d.foldCase.settled = d.settled.foldCase := by
  rw [settled, settled, Table.foldCase_marked, offers_foldCase]
  simp [foldCase, List.flatMap_map, List.filterMap_map, List.filterMap_flatMap,
    Definition.primaryNames_foldCase]

end Draft

/-- **The schema of a folded script is the folded schema.** -/
theorem Schema.ofScript_foldCase (statements : List Statement) :
    ofScript (statements.map Statement.foldCase) = (ofScript statements).foldCase := by
  rw [ofScript_eq, ofScript_eq, Draft.ofScript_foldCase]
  have hoffers : ((Draft.ofScript statements).map Draft.foldCase).flatMap Draft.offers
      = ((Draft.ofScript statements).flatMap Draft.offers).map Relationship.foldCase := by
    simp only [List.flatMap_map, List.map_flatMap, Draft.offers_foldCase]
  have hrelationships := Relationship.acceptAll_foldCase
    ((Draft.ofScript statements).flatMap Draft.offers) []
  rw [List.map_nil] at hrelationships
  simp only [foldCase, hoffers, hrelationships, List.map_map, Function.comp_def,
    Draft.settled_foldCase]

end TableGraph
