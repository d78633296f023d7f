/-
Statements that may be exchanged.

A schema keeps less than its script says.  Of a statement that creates a table it keeps the
columns, the two marks of each, and the references; it does not keep which item of the body
made a mark, nor in which order the items stood.  So statements that differ in these ways
can stand in for each other, and the tables of the script stay as they are.

The references stay the same only in a weaker sense.  Of two that differ in nothing but the
table they lead to the first is recorded, so another order may record another one.  But the
list has the same references, as `SameReference` has it, whatever their order: what was left
out is the same as something that was recorded.
-/
import TableGraph.Proofs.Schema.Declared

namespace TableGraph

open Text Script

/-! ### The same references -/

namespace Relationship

/-- The same references are in both lists, in any order and up to the case of names. -/
def SameReferences (rs qs : List Relationship) : Prop :=
  (∀ r ∈ rs, ∃ q ∈ qs, SameReference r q) ∧ ∀ q ∈ qs, ∃ r ∈ rs, SameReference q r

/-- What is left of the same references, each mentioned once, are the same references. -/
theorem SameReferences.firstMentions {rs qs : List Relationship} (h : SameReferences rs qs) :
    SameReferences (firstMentions rs) (firstMentions qs) := by
  have hhalf : ∀ {as bs : List Relationship}, (∀ a ∈ as, ∃ b ∈ bs, SameReference a b) →
      ∀ a ∈ Relationship.firstMentions as,
        ∃ b ∈ Relationship.firstMentions bs, SameReference a b := by
    intro as bs hab a ha
    obtain ⟨b, hb, hsame⟩ := hab a (mem_of_mem_firstMentions ha)
    obtain ⟨b', hb', hsame'⟩ := exists_mem_firstMentions hb (kind_eq_reference.mp hsame.2.1)
    exact ⟨b', hb', hsame.trans hsame'.symm⟩
  exact ⟨hhalf h.1, hhalf h.2⟩

theorem sameReferences_refl {rs : List Relationship} (h : ∀ r ∈ rs, r.isReference) :
    SameReferences rs rs := by
  have hself : ∀ r ∈ rs, ∃ q ∈ rs, SameReference r q := fun r hr =>
    ⟨r, hr, (covers_iff_sameReference (h r hr)).mp (covers_refl r)⟩
  exact ⟨hself, hself⟩

theorem SameReferences.append {rs rs' qs qs' : List Relationship} (h : SameReferences rs qs)
    (h' : SameReferences rs' qs') : SameReferences (rs ++ rs') (qs ++ qs') := by
  have hhalf : ∀ {as as' bs bs' : List Relationship}, (∀ a ∈ as, ∃ b ∈ bs, SameReference a b) →
      (∀ a ∈ as', ∃ b ∈ bs', SameReference a b) →
        ∀ a ∈ as ++ as', ∃ b ∈ bs ++ bs', SameReference a b := by
    intro as as' bs bs' hab hab' a ha
    rcases List.mem_append.mp ha with ha | ha
    · obtain ⟨b, hb, hsame⟩ := hab a ha
      exact ⟨b, List.mem_append_left _ hb, hsame⟩
    · obtain ⟨b, hb, hsame⟩ := hab' a ha
      exact ⟨b, List.mem_append_right _ hb, hsame⟩
  exact ⟨hhalf h.1 h'.1, hhalf h.2 h'.2⟩

end Relationship

/-! ### The same tables -/

/-- A name finds the same column in another case. -/
theorem isFirstNamed_congr {names : List String} {a b : String} (h : sameName a b) (i : Nat) :
    IsFirstNamed names a i ↔ IsFirstNamed names b i := by
  simp only [IsFirstNamed, sameName_congr_right h]

/-- Where no two names are the same, a name is the first of its kind at its own place alone. -/
theorem isFirstNamed_iff_eq {names : List String} {n : String} {i k : Nat}
    (hdistinct : names.Pairwise fun a b => ¬ sameName a b) (hk : names[k]? = some n) :
    IsFirstNamed names n i ↔ i = k := by
  have hplace : ∀ j m, names[j]? = some m → sameName m n → j = k := by
    intro j m hj hm
    obtain ⟨hjlt, rfl⟩ := List.getElem?_eq_some_iff.mp hj
    obtain ⟨hklt, rfl⟩ := List.getElem?_eq_some_iff.mp hk
    rcases Nat.lt_trichotomy j k with hlt | heq | hlt
    · exact absurd hm (List.pairwise_iff_getElem.mp hdistinct j k hjlt hklt hlt)
    · exact heq
    · rw [sameName_comm] at hm
      exact absurd hm (List.pairwise_iff_getElem.mp hdistinct k j hklt hjlt hlt)
  constructor
  · rintro ⟨⟨m, hm, hsame⟩, -⟩
    exact hplace i m hm hsame
  · rintro rfl
    refine ⟨⟨n, hk, sameName_refl n⟩, fun j m hj hm hsame => ?_⟩
    exact absurd (hplace j m hm hsame) hj.ne

/-- A table is its name, the names and types of its columns, and the two marks of each. -/
theorem Table.ext_of_marks {t t' : Table} (hname : t.name = t'.name)
    (hcolumns : t.columns.map (fun c => (c.name, c.type))
      = t'.columns.map fun c => (c.name, c.type))
    (hmarks : ∀ (i : Nat) (c c' : Column), t.columns[i]? = some c → t'.columns[i]? = some c' →
      (c.isPrimary ↔ c'.isPrimary) ∧ (c.isForeign ↔ c'.isForeign)) : t = t' := by
  have hlists : t.columns = t'.columns := by
    apply List.ext_getElem?
    intro i
    have hi := congrArg (fun l => l[i]?) hcolumns
    simp only [List.getElem?_map] at hi
    cases hc : t.columns[i]? with
    | none =>
        rw [hc, Option.map_none, eq_comm, Option.map_eq_none_iff] at hi
        rw [hi]
    | some c =>
        rw [hc, Option.map_some, eq_comm, Option.map_eq_some_iff] at hi
        obtain ⟨c', hc', hpair⟩ := hi
        obtain ⟨hprimary, hforeign⟩ := hmarks i c c' hc hc'
        obtain ⟨hn, ht⟩ := Prod.mk.inj hpair
        rw [hc', Option.some.injEq]
        obtain ⟨n, type, primary, foreign⟩ := c
        obtain ⟨n', type', primary', foreign'⟩ := c'
        obtain rfl : n' = n := hn
        obtain rfl : type' = type := ht
        obtain rfl : primary = primary' := Bool.eq_iff_iff.mpr hprimary
        obtain rfl : foreign = foreign' := Bool.eq_iff_iff.mpr hforeign
        rfl
  obtain ⟨name, columns⟩ := t
  obtain ⟨name', columns'⟩ := t'
  obtain rfl : name = name' := hname
  obtain rfl : columns = columns' := hlists
  rfl

namespace Draft

variable {table : TableName} {items items' : List Definition}

/-- Items that declare the same columns, the same primary key and the same references are
settled as the same table. -/
theorem settled_eq_of_same
    (hcolumns : (declaredColumns items).map (fun d => (d.name, d.type))
      = (declaredColumns items').map fun d => (d.name, d.type))
    (hprimary : ∀ i d d', (declaredColumns items)[i]? = some d →
      (declaredColumns items')[i]? = some d' →
        ((d.modifiers.any marksPrimaryKey ∨
            ∃ n, IsFirstNamed ((declaredColumns items).map (·.name)) n i ∧
              ∃ constraint listed, .primaryKey constraint listed ∈ items ∧ n ∈ listed) ↔
          (d'.modifiers.any marksPrimaryKey ∨
            ∃ n, IsFirstNamed ((declaredColumns items).map (·.name)) n i ∧
              ∃ constraint listed, .primaryKey constraint listed ∈ items' ∧ n ∈ listed)))
    (hclauses : Relationship.SameReferences (clauses (table, items)) (clauses (table, items'))) :
    (ofDefinitions table items).settled = (ofDefinitions table items').settled := by
  have hd := declaredBy_settled table items
  have hd' := declaredBy_settled table items'
  have hnames : ∀ items : List Definition, (ofDefinitions table items).table.columns.map (·.name)
      = (declaredColumns items).map (·.name) := by
    intro items
    simp [ofDefinitions, columnOf, Function.comp_def, filterMap_column?]
  have hsame : (declaredColumns items').map (·.name)
      = (declaredColumns items).map (·.name) := by
    have hfst := congrArg (List.map Prod.fst) hcolumns
    simpa [Function.comp_def, eq_comm] using hfst
  refine Table.ext_of_marks (hd.name.trans hd'.name.symm)
    (hd.columns.trans (hcolumns.trans hd'.columns.symm)) ?_
  intro i c c' hc hc'
  constructor
  · have hdeclared : ∀ {items : List Definition} {c : Column},
        (ofDefinitions table items).settled.columns[i]? = some c →
          ∃ d, (declaredColumns items)[i]? = some d := by
      intro items c hc
      have hi := congrArg (fun l => l[i]?) (declaredBy_settled table items).columns
      simp only [List.getElem?_map, hc, Option.map_some] at hi
      obtain ⟨d, hd, -⟩ := Option.map_eq_some_iff.mp hi.symm
      exact ⟨d, hd⟩
    obtain ⟨d, hd⟩ := hdeclared hc
    obtain ⟨d', hd'⟩ := hdeclared hc'
    rw [isPrimary_settled hc hd, isPrimary_settled hc' hd']
    simp only [Table.columnIndex?_eq_some_iff, hnames, hsame]
    exact hprimary i d d' hd hd'
  · rw [isForeign_settled hc, isForeign_settled hc']
    simp only [Table.columnIndex?_eq_some_iff, hnames, hsame]
    constructor
    · rintro ⟨r, hr, hfirst⟩
      obtain ⟨q, hq, -, -, -, hcolumn, -⟩ := hclauses.1 r hr
      exact ⟨q, hq, (isFirstNamed_congr hcolumn i).mp hfirst⟩
    · rintro ⟨q, hq, hfirst⟩
      obtain ⟨r, hr, -, -, -, hcolumn, -⟩ := hclauses.2 q hq
      exact ⟨r, hr, (isFirstNamed_congr hcolumn i).mp hfirst⟩

end Draft

/-! ### In a script -/

theorem Script.isReference_of_mem_clauses {creation : TableName × List Definition}
    {r : Relationship} (h : r ∈ clauses creation) : r.isReference := by
  obtain ⟨item, -, hitem⟩ := List.mem_filterMap.mp h
  rw [Definition.clause?_eq] at hitem
  exact (Definition.reference?_spec hitem).1

namespace Schema

variable {before after : List Script.Statement} {table table' : TableName}
  {items items' : List Definition}

/-- In a script a statement may be exchanged for one that settles the same table. -/
theorem tables_congr (h : (Draft.ofDefinitions table items).settled
      = (Draft.ofDefinitions table' items').settled) :
    (ofScript (before ++ .createTable (some table) items :: after)).tables
      = (ofScript (before ++ .createTable (some table') items' :: after)).tables := by
  simp [ofScript_eq, Draft.ofScript, Draft.ofStatement?, h]

/-- In a script a statement may be exchanged for one that has the same references. -/
theorem sameReferences_congr
    (h : Relationship.SameReferences (clauses (table, items)) (clauses (table', items'))) :
    Relationship.SameReferences
      (ofScript (before ++ .createTable (some table) items :: after)).relationships
      (ofScript (before ++ .createTable (some table') items' :: after)).relationships := by
  have hself : ∀ creations : List (TableName × List Definition),
      Relationship.SameReferences (creations.flatMap clauses) (creations.flatMap clauses) := by
    intro creations
    refine Relationship.sameReferences_refl fun r hr => ?_
    obtain ⟨creation, -, hr⟩ := List.mem_flatMap.mp hr
    exact isReference_of_mem_clauses hr
  simp only [relationships_ofScript, List.filterMap_append, List.filterMap_cons,
    Script.Statement.creation?, List.flatMap_append, List.flatMap_cons]
  exact ((hself _).append (h.append (hself _))).firstMentions

/-- In a script a statement may be exchanged for one with the same clauses. -/
theorem relationships_congr (h : clauses (table, items) = clauses (table', items')) :
    (ofScript (before ++ .createTable (some table) items :: after)).relationships
      = (ofScript (before ++ .createTable (some table') items' :: after)).relationships := by
  simp only [relationships_ofScript, List.filterMap_append, List.filterMap_cons,
    Script.Statement.creation?, List.flatMap_append, List.flatMap_cons, h]

end Schema

end TableGraph
