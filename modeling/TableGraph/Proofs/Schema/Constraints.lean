/-
What the constraints of a script amount to.

Applying the constraints of a table goes through them one by one, marks columns and
records references as it meets them.  But no constraint reads what another one has done:
which column a name finds does not depend on marks, and a reference is known or not
whatever table recorded it.  So the outcome can be written down at once, for one draft
and for a whole list of them: the marks are at the positions that the listed names find,
and the relationships are the foreign keys' offers, accepted in the order of the script.
-/
import TableGraph.Schema.Constraints
import TableGraph.Proofs.Schema.Marks
import TableGraph.Proofs.Relationships.Covering

namespace TableGraph

open Text Script

/-- The names that the item puts into the primary key. -/
def Script.Definition.primaryNames : Definition → List String
  | .primaryKey _ columns => columns
  | _ => []

/-- The reference that the item makes in a table of this name. -/
def Script.Definition.reference? (owner : String) (item : Definition) : Option Relationship :=
  item.foreignKey?.bind fun key => key.reference? owner

/-- A foreign key makes a reference, and from the table that declares it. -/
theorem Script.ForeignKey.reference?_spec {owner : String} {key : ForeignKey} {r : Relationship}
    (h : key.reference? owner = some r) : r.isReference ∧ r.source = owner := by
  unfold ForeignKey.reference? at h
  split at h
  · cases h; exact ⟨rfl, rfl⟩
  · cases h

theorem Script.Definition.reference?_spec {owner : String} {item : Definition} {r : Relationship}
    (h : item.reference? owner = some r) : r.isReference ∧ r.source = owner := by
  obtain ⟨key, -, hkey⟩ := Option.bind_eq_some_iff.mp h
  exact ForeignKey.reference?_spec hkey

/-! ### One draft -/

namespace Resolution

/-- A list of names marks the columns that they find. -/
theorem foldl_markPrimary (names : List String) :
    ∀ (t : Table) (primary foreign : List Nat),
      names.foldl Table.markPrimary (t.marked primary foreign)
        = t.marked (primary ++ names.filterMap t.columnIndex?) foreign := by
  induction names with
  | nil => intro t primary foreign; simp
  | cons name rest ih =>
      intro t primary foreign
      rw [List.foldl_cons, Table.markPrimary_marked, ih, List.append_assoc]
      cases h : t.columnIndex? name <;> simp [h]

/-- One item adds its marks and its offer. -/
theorem apply_marked (t : Table) (primary foreign : List Nat) (known : List Relationship)
    (item : Definition) :
    Resolution.apply ⟨t.marked primary foreign, known⟩ item
      = ⟨t.marked (primary ++ item.primaryNames.filterMap t.columnIndex?)
          (foreign ++ (item.reference? t.name).toList.filterMap
            fun r => t.columnIndex? r.sourceColumn),
        Relationship.acceptAll known (item.reference? t.name).toList⟩ := by
  have hkey : ∀ key : ForeignKey,
      Resolution.applyForeignKey ⟨t.marked primary foreign, known⟩ key
        = ⟨t.marked primary (foreign ++ (key.reference? t.name).toList.filterMap
            fun r => t.columnIndex? r.sourceColumn),
          Relationship.acceptAll known (key.reference? t.name).toList⟩ := by
    intro key
    unfold applyForeignKey
    rw [Table.name_marked]
    cases h : key.reference? t.name with
    | none => simp
    | some r =>
        have hr := (ForeignKey.reference?_spec h).1
        simp only [Table.markForeign_marked, Relationship.record_eq_accept hr, Option.toList_some,
          Relationship.acceptAll_cons, Relationship.acceptAll_nil]
        cases hi : t.columnIndex? r.sourceColumn <;> simp [hi]
  cases item with
  | column declaration => simp [Resolution.apply, Definition.primaryNames,
      Definition.reference?, Definition.foreignKey?]
  | primaryKey name columns => simp [Resolution.apply, Definition.primaryNames,
      Definition.reference?, Definition.foreignKey?, foldl_markPrimary]
  | namedForeignKey key => simpa [Resolution.apply, Definition.primaryNames,
      Definition.reference?, Definition.foreignKey?] using hkey key
  | foreignKey key => simpa [Resolution.apply, Definition.primaryNames,
      Definition.reference?, Definition.foreignKey?] using hkey key
  | other name => simp [Resolution.apply, Definition.primaryNames,
      Definition.reference?, Definition.foreignKey?]

theorem foldl_apply_marked (items : List Definition) :
    ∀ (t : Table) (primary foreign : List Nat) (known : List Relationship),
      items.foldl Resolution.apply ⟨t.marked primary foreign, known⟩
        = ⟨t.marked (primary ++ (items.flatMap Definition.primaryNames).filterMap t.columnIndex?)
            (foreign ++ (items.filterMap (Definition.reference? t.name)).filterMap
              fun r => t.columnIndex? r.sourceColumn),
          Relationship.acceptAll known (items.filterMap (Definition.reference? t.name))⟩ := by
  induction items with
  | nil => intro t primary foreign known; simp
  | cons item rest ih =>
      intro t primary foreign known
      have hoffers : (item :: rest).filterMap (Definition.reference? t.name)
          = (item.reference? t.name).toList ++ rest.filterMap (Definition.reference? t.name) := by
        cases h : item.reference? t.name <;> simp [h]
      rw [List.foldl_cons, apply_marked, ih, hoffers, List.filterMap_append, List.flatMap_cons,
        List.filterMap_append, Relationship.acceptAll_append, List.append_assoc, List.append_assoc]

end Resolution

namespace Draft

/-- The references that the constraints of a draft make, in their order. -/
def offers (d : Draft) : List Relationship :=
  d.constraints.filterMap (Definition.reference? d.table.name)

/-- The table of a draft with the marks of its constraints. -/
def settled (d : Draft) : Table :=
  d.table.marked ((d.constraints.flatMap Definition.primaryNames).filterMap d.table.columnIndex?)
    (d.offers.filterMap fun r => d.table.columnIndex? r.sourceColumn)

/-- **Resolving a draft, at once.** -/
theorem resolve_eq (known : List Relationship) (d : Draft) :
    d.resolve known = ⟨d.settled, Relationship.acceptAll known d.offers⟩ := by
  have h := Resolution.foldl_apply_marked d.constraints d.table [] [] known
  rw [Table.marked_nil] at h
  simpa [resolve, settled, offers] using h

theorem mem_offers_spec {d : Draft} {r : Relationship} (h : r ∈ d.offers) :
    r.isReference ∧ r.source = d.table.name := by
  obtain ⟨item, -, hitem⟩ := List.mem_filterMap.mp h
  exact Definition.reference?_spec hitem

end Draft

/-! ### All drafts -/

namespace Schema

theorem foldl_addDraft (drafts : List Draft) :
    ∀ s : Schema, drafts.foldl addDraft s
      = { tables := s.tables ++ drafts.map Draft.settled
          relationships := Relationship.acceptAll s.relationships (drafts.flatMap Draft.offers) } := by
  induction drafts with
  | nil => intro s; simp
  | cons d rest ih =>
      intro s
      rw [List.foldl_cons, ih]
      simp [addDraft, Draft.resolve_eq, Relationship.acceptAll_append]

/-- **The schema that a script declares, at once.** -/
theorem ofScript_eq (statements : List Statement) :
    ofScript statements
      = { tables := (Draft.ofScript statements).map Draft.settled
          relationships :=
            Relationship.acceptAll [] ((Draft.ofScript statements).flatMap Draft.offers) } := by
  rw [ofScript, ofDrafts, foldl_addDraft]
  rfl

/-- No column is marked as a foreign key before the constraints are applied. -/
theorem isForeign_of_mem_draft {statements : List Statement} {d : Draft} {c : Column}
    (hd : d ∈ Draft.ofScript statements) (hc : c ∈ d.table.columns) : c.isForeign = false := by
  obtain ⟨statement, -, hstatement⟩ := List.mem_filterMap.mp hd
  unfold Draft.ofStatement? at hstatement
  split at hstatement
  · cases hstatement
    obtain ⟨declaration, -, rfl⟩ := List.mem_map.mp hc
    rfl
  · cases hstatement

end Schema

end TableGraph
