/-
Tables and relationships in one spelling.

Two schemas that differ only in the case of ASCII letters become equal when every name in
them is folded, so what does not depend on the case of letters is what folding does not
change.  That is easier to work with than a relation between two schemas: each lookup and
each test gets one equation, with the folded thing on one side, and a list of folded
things is a `map`.

A test between two names may be stated by `sameName`, which folds both of them anyway, or
by equality after `lowercase`, of which folding is the first part.
-/
import TableGraph.Proofs.Relationships.Covering
import TableGraph.Proofs.Schema.Marks
import TableGraph.Proofs.Text.Lowercase

namespace TableGraph

open Text

/-! ### Names -/

namespace Text

@[simp] theorem foldAscii_foldAscii (s : String) : foldAscii (foldAscii s) = foldAscii s := by
  simp [foldAscii, Function.comp_def, Char.toLower_toLower_eq_toLower]

@[simp] theorem sameName_foldAscii_left (a b : String) :
    sameName (foldAscii a) b = sameName a b := by
  simp [sameName]

@[simp] theorem sameName_foldAscii_right (a b : String) :
    sameName a (foldAscii b) = sameName a b := by
  simp [sameName]

end Text

/-! ### Tables -/

/-- The column with its name folded. -/
def Column.foldCase (c : Column) : Column := { c with name := foldAscii c.name }

namespace Table

/-- The table with its name and those of its columns folded. -/
def foldCase (t : Table) : Table where
  name := foldAscii t.name
  columns := t.columns.map Column.foldCase

@[simp] theorem name_foldCase (t : Table) : t.foldCase.name = foldAscii t.name := rfl

@[simp] theorem columns_foldCase (t : Table) :
    t.foldCase.columns = t.columns.map Column.foldCase := rfl

@[simp] theorem columnIndex?_foldCase (t : Table) (name : String) :
    t.foldCase.columnIndex? (foldAscii name) = t.columnIndex? name := by
  simp [columnIndex?, List.findIdx?_map, Function.comp_def, Column.foldCase]

@[simp] theorem primaryKey?_foldCase (t : Table) :
    t.foldCase.primaryKey? = t.primaryKey?.map Column.foldCase := by
  simp [primaryKey?, List.find?_map, Function.comp_def, Column.foldCase]

/-- Where a table is marked has nothing to do with its names. -/
theorem foldCase_marked (t : Table) (primary foreign : List Nat) :
    (t.marked primary foreign).foldCase = t.foldCase.marked primary foreign := by
  have hcolumns : (t.marked primary foreign).foldCase.columns
      = (t.foldCase.marked primary foreign).columns := by
    apply List.ext_getElem?
    intro i
    simp [getElem?_columns_marked, Function.comp_def, Column.foldCase]
  simpa [foldCase, marked] using hcolumns

end Table

/-! ### Relationships -/

/-- The link with its column names folded. -/
def Link.foldCase : Link → Link
  | .reference column referred => .reference (foldAscii column) (foldAscii referred)
  | .sharedKey column => .sharedKey (foldAscii column)

namespace Relationship

/-- The relationship with all its names folded. -/
def foldCase (r : Relationship) : Relationship where
  source := foldAscii r.source
  target := foldAscii r.target
  link := r.link.foldCase

@[simp] theorem source_foldCase (r : Relationship) : r.foldCase.source = foldAscii r.source := rfl

@[simp] theorem target_foldCase (r : Relationship) : r.foldCase.target = foldAscii r.target := rfl

@[simp] theorem sourceColumn_foldCase (r : Relationship) :
    r.foldCase.sourceColumn = foldAscii r.sourceColumn := by
  obtain ⟨source, target, link⟩ := r
  cases link <;> rfl

@[simp] theorem targetColumn_foldCase (r : Relationship) :
    r.foldCase.targetColumn = foldAscii r.targetColumn := by
  obtain ⟨source, target, link⟩ := r
  cases link <;> rfl

@[simp] theorem kind_foldCase (r : Relationship) : r.foldCase.kind = r.kind := by
  obtain ⟨source, target, link⟩ := r
  cases link <;> rfl

@[simp] theorem isReference_foldCase (r : Relationship) :
    r.foldCase.isReference = r.isReference := by
  rw [isReference, kind_foldCase, isReference]

@[simp] theorem touches_foldCase (r : Relationship) (table : String) :
    r.foldCase.touches (foldAscii table) = r.touches table := by
  simp [touches]

theorem covers_foldCase (r offer : Relationship) :
    r.foldCase.covers offer.foldCase = r.covers offer := by
  by_cases h : offer.isReference
  · rw [covers_of_isReference h, covers_of_isReference (by simpa using h)]
    simp [sameReference]
  · rw [covers_of_not_isReference h, covers_of_not_isReference (by simpa using h)]
    simp [connects]

theorem accept_foldCase (known : List Relationship) (offer : Relationship) :
    accept (known.map foldCase) offer.foldCase = (accept known offer).map foldCase := by
  have hany : (known.map foldCase).any (·.covers offer.foldCase) = known.any (·.covers offer) := by
    simp [List.any_map, Function.comp_def, covers_foldCase]
  unfold accept
  rw [hany]
  by_cases h : known.any (·.covers offer)
  · rw [if_pos h, if_pos h]
  · rw [if_neg h, if_neg h, List.map_append, List.map_singleton]

/-- Folding decides no offer otherwise. -/
theorem acceptAll_foldCase (offers : List Relationship) :
    ∀ known : List Relationship,
      acceptAll (known.map foldCase) (offers.map foldCase)
        = (acceptAll known offers).map foldCase := by
  induction offers with
  | nil => intro known; rfl
  | cons offer rest ih =>
      intro known
      rw [List.map_cons, acceptAll_cons, accept_foldCase, ih, acceptAll_cons]

theorem accepted_foldCase (known offers : List Relationship) :
    accepted (known.map foldCase) (offers.map foldCase) = (accepted known offers).map foldCase := by
  rw [accepted, acceptAll_foldCase, List.length_map, ← List.map_drop, accepted]

end Relationship

/-- The schema with all its names folded. -/
def Schema.foldCase (s : Schema) : Schema where
  tables := s.tables.map Table.foldCase
  relationships := s.relationships.map Relationship.foldCase

end TableGraph
