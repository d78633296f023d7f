/-
Marks of foreign keys and relationships agree.

A relationship begins at a marked column, if at a column at all, and a marked column
begins some relationship.  Both are read off the two closed forms, `Schema.ofScript_eq`
and `Schema.infer_table`, and not followed through the runs.

Two things are less plain than they look.  A relationship names its column, and when a
table has two columns of a name, looking it up finds the first, which need not be the one
the rule visited; the naming rule treats both alike, so the first is marked as well.  And
a mark may be made for an offer that was not accepted.  What covers the offer then
accounts for the mark, though it may come from another table of the same name.
-/
import TableGraph.Analysis
import TableGraph.Proofs.Schema.Constraints
import TableGraph.Proofs.Inference.Run

namespace TableGraph

open Text

/-- The name finds no column of the table, or one that is marked as a foreign key. -/
def Table.FlagsForeign (t : Table) (name : String) : Prop :=
  t.columnIndex? name = none ∨
    ∃ i c, t.columnIndex? name = some i ∧ t.columns[i]? = some c ∧ c.isForeign

namespace Table

theorem flagsForeign_marked {t : Table} {primary foreign : List Nat} {name : String}
    (h : ∀ i, t.columnIndex? name = some i → i ∈ foreign) :
    (t.marked primary foreign).FlagsForeign name := by
  unfold FlagsForeign
  rw [columnIndex?_marked]
  cases hi : t.columnIndex? name with
  | none => exact Or.inl rfl
  | some i =>
      obtain ⟨c, hc, -⟩ := exists_of_columnIndex?_eq_some hi
      exact Or.inr ⟨i, _, rfl, by rw [getElem?_columns_marked, hc]; rfl, by simp [h i hi]⟩

/-- Marking more columns takes no mark away. -/
theorem FlagsForeign.marked {t : Table} {name : String} (h : t.FlagsForeign name)
    (primary foreign : List Nat) : (t.marked primary foreign).FlagsForeign name := by
  unfold FlagsForeign at h ⊢
  rw [columnIndex?_marked]
  rcases h with h | ⟨i, c, hi, hc, hforeign⟩
  · exact Or.inl h
  · exact Or.inr ⟨i, _, hi, by rw [getElem?_columns_marked, hc]; rfl, by simp [hforeign]⟩

end Table

namespace Schema

open Inference

/-- Every relationship begins at a marked column, and at every marked column begins one. -/
structure FlagsAgree (s : Schema) : Prop where
  /-- The table that a relationship names as its source has the column marked, if it has
  the column. -/
  flagged : ∀ r ∈ s.relationships, ∃ t ∈ s.tables,
    t.name = r.source ∧ t.FlagsForeign r.sourceColumn
  /-- Some relationship accounts for every mark. -/
  justified : ∀ t ∈ s.tables, ∀ c ∈ t.columns, c.isForeign →
    ∃ r ∈ s.relationships, sameName r.source t.name ∧ sameName r.sourceColumn c.name

/-- An offer accounts for a mark even if something else was there in its place. -/
theorem exists_source_of_mem_offers (known : List Relationship) {offers : List Relationship}
    {offer : Relationship} (hoffer : offer ∈ offers) (hreference : offer.isReference) :
    ∃ r ∈ Relationship.acceptAll known offers,
      sameName r.source offer.source ∧ sameName r.sourceColumn offer.sourceColumn := by
  obtain ⟨r, hr, hcovers⟩ := Relationship.exists_covers_of_mem known hoffer
  rw [Relationship.covers_of_isReference hreference, Relationship.sameReference_iff] at hcovers
  exact ⟨r, hr, hcovers.2.1, hcovers.2.2.1⟩

theorem flagsAgree_ofScript (statements : List Script.Statement) :
    FlagsAgree (ofScript statements) := by
  rw [ofScript_eq]
  constructor
  · intro r hr
    have hmem : r ∈ (Draft.ofScript statements).flatMap Draft.offers := by
      rw [Relationship.acceptAll_eq_append, List.nil_append] at hr
      exact Relationship.mem_offers_of_mem_accepted hr
    obtain ⟨d, hd, hoffer⟩ := List.mem_flatMap.mp hmem
    refine ⟨d.settled, List.mem_map_of_mem hd, (Draft.mem_offers_spec hoffer).2.symm, ?_⟩
    exact Table.flagsForeign_marked fun i hi => List.mem_filterMap.mpr ⟨r, hoffer, hi⟩
  · intro t ht c hc hforeign
    obtain ⟨d, hd, rfl⟩ := List.mem_map.mp ht
    obtain ⟨i, c₀, hc₀, hname, hmarked⟩ := Table.exists_of_mem_columns_marked hc hforeign
    have hplain := isForeign_of_mem_draft hd (List.mem_of_getElem? hc₀)
    obtain ⟨offer, hoffer, hi⟩ :=
      List.mem_filterMap.mp (hmarked.resolve_left (by simp [hplain]))
    obtain ⟨hreference, hsource⟩ := Draft.mem_offers_spec hoffer
    obtain ⟨r, hr, hrsource, hrcolumn⟩ := exists_source_of_mem_offers []
      (List.mem_flatMap.mpr ⟨d, hd, hoffer⟩) hreference
    refine ⟨r, hr, by rw [hsource] at hrsource; exact hrsource, ?_⟩
    -- The name that the offer gives found this column, in one spelling or another.
    obtain ⟨c₁, hc₁, hsame⟩ := Table.exists_of_columnIndex?_eq_some hi
    obtain rfl : c₁ = c₀ := Option.some.inj (hc₁.symm.trans hc₀)
    rw [hname, sameName_comm] at hsame
    exact sameName_trans hrcolumn hsame

/-- The column that a rule's offer begins at is marked, the first of its name. -/
theorem mark_of_mem_accepted {index : KeyIndex} {known : List Relationship} {t : Table}
    {r : Relationship} (hr : r ∈ Relationship.accepted known (tableOffers index t)) {i : Nat}
    (hi : t.columnIndex? r.sourceColumn = some i) :
    i ∈ tableMarks index t ++
      (Relationship.accepted known (tableOffers index t)).filterMap (tieMark t) := by
  rw [List.mem_append]
  obtain ⟨c, -, e, he, ⟨hrefers, rfl⟩ | ⟨key, -, rfl⟩⟩ :=
    mem_tableOffers.mp (Relationship.mem_offers_of_mem_accepted hr)
  · obtain ⟨first, hfirst, hsame⟩ := Table.exists_of_columnIndex?_eq_some hi
    rw [sameName_comm] at hsame
    exact Or.inl (mem_tableMarks.mpr ⟨first, hfirst, e, he, hrefers.of_sameName hsame⟩)
  · exact Or.inr (List.mem_filterMap.mpr ⟨_, hr, hi⟩)

/-- The relationships known before keep their marked columns, and those that a table adds
get theirs. -/
theorem FlagsAgree.flagged_infer {s : Schema} (h : FlagsAgree s) (toSingular : String → String)
    {r : Relationship} (hr : r ∈ (s.infer toSingular).relationships) :
    ∃ t ∈ (s.infer toSingular).tables, t.name = r.source ∧ t.FlagsForeign r.sourceColumn := by
  rcases mem_infer_relationships.mp hr with hr | hr
  · obtain ⟨t, ht, hname, hflags⟩ := h.flagged r hr
    obtain ⟨i, hi⟩ := List.mem_iff_getElem?.mp ht
    exact ⟨_, List.mem_of_getElem? (infer_table hi), hname, hflags.marked _ _⟩
  · obtain ⟨i, t, hi, haccepted⟩ := mem_inferred.mp hr
    refine ⟨_, List.mem_of_getElem? (infer_table hi), ?_, ?_⟩
    · rw [Table.name_marked,
        source_of_mem_tableOffers (Relationship.mem_offers_of_mem_accepted haccepted)]
    · exact Table.flagsForeign_marked fun j hj => mark_of_mem_accepted haccepted hj

/-- A mark that the naming rule makes is accounted for by what is in the place of its offer. -/
theorem justified_of_mem_tableMarks (toSingular : String → String) {s : Schema} {t : Table}
    (ht : t ∈ s.tables) {j : Nat} {c : Column} (hc : t.columns[j]? = some c)
    (hmark : j ∈ tableMarks (s.keyIndex toSingular) t) :
    ∃ r ∈ (s.infer toSingular).relationships,
      sameName r.source t.name ∧ sameName r.sourceColumn c.name := by
  obtain ⟨c₁, hc₁, e, he, hrefers⟩ := mem_tableMarks.mp hmark
  obtain rfl : c₁ = c := Option.some.inj (hc₁.symm.trans hc)
  have hoffer : ⟨t.name, e.table, .reference c₁.name e.column⟩ ∈ s.offers toSingular :=
    List.mem_flatMap.mpr ⟨t, ht, mem_tableOffers.mpr
      ⟨c₁, List.mem_of_getElem? hc₁, e, he, Or.inl ⟨hrefers, rfl⟩⟩⟩
  rw [infer_relationships]
  obtain ⟨r, hr, hsource, hcolumn⟩ := exists_source_of_mem_offers s.relationships hoffer
    (Relationship.isReference_mk _ _ _ _)
  exact ⟨r, hr, hsource, hcolumn⟩

/-- A mark that goes with a shared key is accounted for by it. -/
theorem justified_of_tieMark {t : Table} {r : Relationship} (hsource : r.source = t.name)
    {j : Nat} {c : Column} (hc : t.columns[j]? = some c) (hmark : tieMark t r = some j) :
    sameName r.source t.name ∧ sameName r.sourceColumn c.name := by
  have hfound : t.columnIndex? r.sourceColumn = some j := by
    unfold tieMark at hmark
    split at hmark
    · cases hmark
    · exact hmark
  obtain ⟨c₁, hc₁, hsame⟩ := Table.exists_of_columnIndex?_eq_some hfound
  obtain rfl : c₁ = c := Option.some.inj (hc₁.symm.trans hc)
  exact ⟨by rw [hsource]; exact sameName_refl _, by rwa [sameName_comm]⟩

/-- A mark was there before, or one of the two rules made it. -/
theorem FlagsAgree.justified_infer {s : Schema} (h : FlagsAgree s) (toSingular : String → String)
    {t' : Table} (ht' : t' ∈ (s.infer toSingular).tables) {c : Column} (hc : c ∈ t'.columns)
    (hforeign : c.isForeign) :
    ∃ r ∈ (s.infer toSingular).relationships,
      sameName r.source t'.name ∧ sameName r.sourceColumn c.name := by
  obtain ⟨i, hi'⟩ := List.mem_iff_getElem?.mp ht'
  obtain ⟨t, hi⟩ : ∃ t, s.tables[i]? = some t := by
    have hlt := (List.getElem?_eq_some_iff.mp hi').1
    rw [length_infer_tables] at hlt
    exact ⟨_, List.getElem?_eq_getElem hlt⟩
  have ht := List.mem_of_getElem? hi
  obtain rfl := Option.some.inj ((infer_table hi).symm.trans hi')
  obtain ⟨j, c₀, hc₀, hname, hmarked⟩ := Table.exists_of_mem_columns_marked hc hforeign
  rw [← hname, Table.name_marked]
  rw [List.mem_append] at hmarked
  rcases hmarked with hbefore | hnaming | htie
  · obtain ⟨r, hr, hends⟩ := h.justified t ht c₀ (List.mem_of_getElem? hc₀) hbefore
    exact ⟨r, mem_infer_relationships.mpr (Or.inl hr), hends⟩
  · exact justified_of_mem_tableMarks toSingular ht hc₀ hnaming
  · obtain ⟨r, hr, hmark⟩ := List.mem_filterMap.mp htie
    have hsource := source_of_mem_tableOffers (Relationship.mem_offers_of_mem_accepted hr)
    have hadded : r ∈ s.inferred toSingular := mem_inferred.mpr ⟨i, t, hi, hr⟩
    exact ⟨r, mem_infer_relationships.mpr (Or.inr hadded), justified_of_tieMark hsource hc₀ hmark⟩

/-- **Inference keeps marks and relationships in agreement.** -/
theorem FlagsAgree.infer {s : Schema} (h : FlagsAgree s) (toSingular : String → String) :
    FlagsAgree (s.infer toSingular) where
  flagged _ hr := h.flagged_infer toSingular hr
  justified _ ht _ hc hforeign := h.justified_infer toSingular ht hc hforeign

end Schema

/--
**Marks of foreign keys and relationships agree.**  This is what an analysis leaves, for
any script, with tables and columns of one name or without.  Where no two tables have the
same name, the table that a relationship begins at is the only one of that name.
-/
theorem foreignFlags_agree (toSingular : String → String) (options : Statistics.Options)
    (statements : List Script.Statement) :
    let s := (Analysis.ofScriptWith toSingular options statements).schema
    s.FlagsAgree ∧
      (s.tables.Pairwise (fun t u => ¬ sameName t.name u.name) →
        ∀ r ∈ s.relationships, ∃ t ∈ s.tables, t.name = r.source ∧
          t.FlagsForeign r.sourceColumn ∧ ∀ u ∈ s.tables, sameName u.name r.source → u = t) := by
  intro s
  have hagree : s.FlagsAgree := (Schema.flagsAgree_ofScript statements).infer toSingular
  refine ⟨hagree, ?_⟩
  intro hdistinct r hr
  obtain ⟨t, ht, hname, hflags⟩ := hagree.flagged r hr
  refine ⟨t, ht, hname, hflags, ?_⟩
  intro u hu hsame
  rw [← hname] at hsame
  exact eq_of_sameName hdistinct hu ht hsame

/-- The column is declared twice, and both declarations refer to `users`. -/
theorem foreignFlags_agree_repeatedColumn :
    let statements : List Script.Statement := [
      .createTable (some { name := "users" })
        [.column { name := "id", type := "INT", modifiers := ["PRIMARY KEY"] }],
      .createTable (some { name := "orders" })
        [.column { name := "user_id", type := "INT" }, .column { name := "USER_ID", type := "INT" }]]
    let s := (Analysis.ofScriptWith singular {} statements).schema
    s.tables.Pairwise (fun t u => ¬ sameName t.name u.name) ∧
      s.relationships = [⟨"orders", "users", .reference "user_id" "id"⟩] ∧
      ∀ r ∈ s.relationships, ∃ t ∈ s.tables, t.name = r.source ∧
        t.FlagsForeign r.sourceColumn ∧ ∀ u ∈ s.tables, sameName u.name r.source → u = t := by
  intro statements s
  have hdistinct : s.tables.Pairwise (fun t u => ¬ sameName t.name u.name) := by decide +kernel
  have hrelationships : s.relationships = [⟨"orders", "users", .reference "user_id" "id"⟩] := by
    decide +kernel
  exact ⟨hdistinct, hrelationships, (foreignFlags_agree singular {} statements).2 hdistinct⟩

end TableGraph
