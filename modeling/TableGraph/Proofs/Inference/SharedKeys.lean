/-
When a shared key stands beside a reference.

A shared key is accepted only while nothing between its two tables starts from that
column.  But the naming rule does not ask about shared keys, and it may come later: when
it gets to the key column itself, because the shared key is offered at the first column
of the table already, or when it gets to the other table.  Then the two are tied twice by
one key.

This file says exactly when that happens, where names are told apart and no shared key is
known from the start.  Of two tables with a common key the earlier one offers it.  The
shared key is kept out if the naming rule makes a reference of the same column before,
and there is only one place before: the first column of the earlier table.  Everything
else that the naming rule says of the two keys comes too late.  So links on one key are
single just if, whenever the naming rule takes the key of one of the two tables for a
reference to the other, it does so from the first column of the earlier table.
-/
import TableGraph.Proofs.Inference.CommonKeys
import TableGraph.Proofs.Inference.Naming
import TableGraph.Proofs.Relationships.Duplicates

namespace TableGraph

open Text Inference

/-- `r` is another link between the tables of `tie`, from the same column. -/
def Relationship.Doubles (r tie : Relationship) : Prop :=
  r ≠ tie ∧ r.connects tie.source tie.target ∧ sameName r.sourceColumn tie.sourceColumn

instance (r tie : Relationship) : Decidable (r.Doubles tie) := inferInstanceAs (Decidable (_ ∧ _))

/-- No other link on its key stands beside a shared key. -/
def TiesSingle (rs : List Relationship) : Prop :=
  ∀ tie ∈ rs, tie.kind = .sharedKey → ∀ r ∈ rs, ¬ r.Doubles tie

instance (rs : List Relationship) : Decidable (TiesSingle rs) :=
  inferInstanceAs (Decidable (∀ tie ∈ rs, _))

namespace Schema

/-- The naming rule takes the key of `a` for a reference to `b`, and no relationship known
from the start says so already. -/
def RefersByKey (toSingular : String → String) (s : Schema) (a b : Table) : Prop :=
  ∃ k e, a.primaryKey? = some k ∧ e.table = b.name ∧ RefersFirst (s.keyIndex toSingular) a k e ∧
    ∀ r ∈ s.relationships, ¬ r.sameReference a.name k.name e.column

/-- The two tables have a common key, and no relationship known from the start is a link on it. -/
structure SharedPair (s : Schema) (a b : Table) (ka kb : Column) : Prop
    extends Table.CommonKey a b ka kb where
  free : ∀ r ∈ s.relationships, r.connects a.name b.name → ¬ sameName r.sourceColumn ka.name

/-- Of two tables with a common key, if either refers to the other by it, the earlier one
does, from its first column. -/
def ReferencesFirst (toSingular : String → String) (s : Schema) : Prop :=
  ∀ (i j : Nat) (a b : Table) (ka kb : Column), i < j → s.tables[i]? = some a →
    s.tables[j]? = some b → s.SharedPair a b ka kb →
      s.RefersByKey toSingular a b ∨ s.RefersByKey toSingular b a →
        a.columns.head? = some ka ∧ s.RefersByKey toSingular a b

variable {toSingular : String → String} {s : Schema} {a b : Table} {ka kb : Column}

theorem SharedPair.symm (h : s.SharedPair a b ka kb) : s.SharedPair b a kb ka where
  toCommonKey := h.toCommonKey.symm
  free := by
    intro r hr hconnects hcolumn
    rw [Relationship.connects_comm] at hconnects
    rw [sameName_comm] at hcolumn
    exact h.free r hr hconnects (by rw [sameName_comm]; exact sameName_trans h.same hcolumn)

/-! ### References from a key -/

/-- Where names are distinct, the entry that a key refers to is that of the other table. -/
theorem refersByKey_iff (hnames : s.NamesDistinct) (hb : b ∈ s.tables)
    (hka : a.primaryKey? = some ka) (hkb : b.primaryKey? = some kb) :
    s.RefersByKey toSingular a b ↔
      RefersFirst (s.keyIndex toSingular) a ka (KeyEntry.ofTable toSingular b.name kb.name) ∧
        ∀ r ∈ s.relationships, ¬ r.sameReference a.name ka.name kb.name := by
  constructor
  · rintro ⟨k, e, hk, htable, hfirst, hnew⟩
    obtain rfl : k = ka := Option.some.inj (hk.symm.trans hka)
    obtain rfl :=
      hnames.tablesDistinct.entry_eq hfirst.mem hb hkb (by rw [htable]; exact sameName_refl _)
    exact ⟨hfirst, hnew⟩
  · rintro ⟨hfirst, hnew⟩
    exact ⟨ka, KeyEntry.ofTable toSingular b.name kb.name, hka, rfl, hfirst, hnew⟩

/-- A reference that a run adds from the key of `a` to `b` is the one there can be. -/
theorem refersByKey_of_mem_inferred (hnames : s.NamesDistinct) (ha : a ∈ s.tables)
    (hb : b ∈ s.tables) (hka : a.primaryKey? = some ka) (hkb : b.primaryKey? = some kb)
    {r : Relationship} (hr : r ∈ s.inferred toSingular) (hreference : r.isReference)
    (hsource : sameName r.source a.name) (htarget : sameName r.target b.name)
    (hcolumn : sameName r.sourceColumn ka.name) : s.RefersByKey toSingular a b := by
  obtain ⟨t, ht, c, hc, e, he, hfirst, rfl⟩ := exists_refersFirst_of_mem_inferred hr hreference
  obtain rfl := hnames.tablesDistinct.table_eq ht ha hsource
  obtain rfl := hnames.column_eq ht hc (Table.mem_columns_of_primaryKey? hka) hcolumn
  obtain rfl := hnames.tablesDistinct.entry_eq he hb hkb htarget
  rw [refersByKey_iff hnames hb hka hkb]
  refine ⟨hfirst, ?_⟩
  intro q hq hsame
  exact Relationship.not_covers_of_mem_accepted hr hq hsame

/-- When the naming rule makes a reference from the key of `a` to `b`, nothing else is in
its place. -/
theorem eq_of_covers_of_refersByKey (hnames : s.NamesDistinct) (ha : a ∈ s.tables)
    (hb : b ∈ s.tables) (hka : a.primaryKey? = some ka) (hkb : b.primaryKey? = some kb)
    (h : s.RefersByKey toSingular a b) {q : Relationship}
    (hq : q ∈ (s.infer toSingular).relationships)
    (hcovers : q.covers ⟨a.name, b.name, .reference ka.name kb.name⟩) :
    q = ⟨a.name, b.name, .reference ka.name kb.name⟩ := by
  obtain ⟨hfirst, hnew⟩ := (refersByKey_iff hnames hb hka hkb).mp h
  rcases mem_infer_relationships.mp hq with hq | hq
  · exact absurd hcovers (hnew q hq)
  · have hreference : q.isReference := Relationship.isReference_of_covers rfl hcovers
    obtain ⟨t, ht, c, hc, e, he, hefirst, rfl⟩ := exists_refersFirst_of_mem_inferred hq hreference
    rw [Relationship.covers_of_isReference rfl, Relationship.sameReference_iff] at hcovers
    obtain ⟨-, hsource, hcolumn, htarget⟩ := hcovers
    obtain rfl := hnames.tablesDistinct.table_eq ht ha hsource
    obtain rfl := hnames.column_eq ht hc (Table.mem_columns_of_primaryKey? hka) hcolumn
    obtain rfl := hefirst.unique hfirst htarget
    rfl

theorem mem_infer_of_refersByKey (hnames : s.NamesDistinct) (ha : a ∈ s.tables)
    (hb : b ∈ s.tables) (hka : a.primaryKey? = some ka) (hkb : b.primaryKey? = some kb)
    (h : s.RefersByKey toSingular a b) :
    ⟨a.name, b.name, .reference ka.name kb.name⟩ ∈ (s.infer toSingular).relationships := by
  obtain ⟨hfirst, -⟩ := (refersByKey_iff hnames hb hka hkb).mp h
  obtain ⟨q, hq, hsame⟩ := exists_sameReference_of_refers ha
    (Table.mem_columns_of_primaryKey? hka) hfirst.mem hfirst.refers
  rwa [← eq_of_covers_of_refersByKey hnames ha hb hka hkb h hq hsame]

/-! ### Where a shared key is offered -/

/-- A table before the earlier of the two is neither of them. -/
theorem not_connects_of_earlier_table (hnames : s.NamesDistinct) {i j : Nat} (hij : i < j)
    (hi : s.tables[i]? = some a) (hj : s.tables[j]? = some b) {q : Relationship}
    (hq : q ∈ (s.tables.take i).flatMap (tableOffers (s.keyIndex toSingular))) :
    ¬ q.connects a.name b.name := by
  intro hconnects
  obtain ⟨t, ht, hq⟩ := List.mem_flatMap.mp hq
  obtain ⟨l, hlt, hl⟩ := mem_take_iff_getElem?.mp ht
  rw [Relationship.connects_iff, source_of_mem_tableOffers hq] at hconnects
  rcases hconnects with ⟨hsource, -⟩ | ⟨hsource, -⟩
  · exact absurd (hnames.tablesDistinct.position_eq hl hi hsource) (by omega)
  · exact absurd (hnames.tablesDistinct.position_eq hl hj hsource) (by omega)

/-- An entry before that of the later table is another one's. -/
theorem not_connects_of_earlier_entry (hnames : s.NamesDistinct)
    (hne : lowercase b.name ≠ lowercase a.name) {before after : KeyIndex} {e : KeyEntry}
    (hindex : s.keyIndex toSingular = before ++ e :: after) (he : e.table = b.name) {v : Visit}
    {q : Relationship} (hq : q ∈ before.flatMap (v.offers a.name)) :
    ¬ q.connects a.name b.name := by
  intro hconnects
  obtain ⟨o, ho, hq⟩ := List.mem_flatMap.mp hq
  obtain ⟨hsource, htarget⟩ := ends_of_mem_offers hq
  rw [Relationship.connects_iff, hsource, htarget] at hconnects
  rcases hconnects with ⟨-, hsame⟩ | ⟨hsame, -⟩
  · have hpairwise := hnames.tablesDistinct.pairwise_keyIndex toSingular
    rw [hindex] at hpairwise
    rw [← he] at hsame
    exact (List.pairwise_append.mp hpairwise).2.2 o ho e (by simp) hsame
  · exact hne (lowercase_eq_of_sameName hsame).symm

/-- The offers of a schema, taken apart where the earlier of two tables with a common key
offers it.  Nothing that is offered before, but for the first column of that table, is a
link between the two. -/
theorem offers_split_of_sharedPair (toSingular : String → String) (hnames : s.NamesDistinct)
    {i j : Nat} (hij : i < j) (hi : s.tables[i]? = some a) (hj : s.tables[j]? = some b)
    (hpair : s.SharedPair a b ka kb) {c : Column} (hcolumns : a.columns.head? = some c) :
    ∃ first rest, s.offers toSingular
        = first ++ ((visit (s.keyIndex toSingular) a 0 c).references a.name
            (KeyEntry.ofTable toSingular b.name kb.name) ++
          ⟨a.name, b.name, .sharedKey ka.name⟩ :: rest) ∧
      ∀ q ∈ first, ¬ q.connects a.name b.name := by
  have hmem : KeyEntry.ofTable toSingular b.name kb.name ∈ s.keyIndex toSingular :=
    hnames.tablesDistinct.mem_keyIndex.mpr ⟨b, List.mem_of_getElem? hj, kb, hpair.right, rfl⟩
  obtain ⟨before, after, hindex⟩ := List.append_of_mem hmem
  have hne : lowercase b.name ≠ lowercase a.name :=
    (hnames.tablesDistinct.lowercase_ne hij hi hj).symm
  have hshares := hpair.sharesKey toSingular hne
  obtain ⟨rest, hsplit⟩ := tableOffers_split hcolumns hindex hshares
  refine ⟨(s.tables.take i).flatMap (tableOffers (s.keyIndex toSingular)) ++
    before.flatMap ((visit (s.keyIndex toSingular) a 0 c).offers a.name),
    rest ++ (s.tables.drop (i + 1)).flatMap (tableOffers (s.keyIndex toSingular)), ?_, ?_⟩
  · rw [offers_split hi, hsplit]
    simp only [List.append_assoc, List.cons_append]
    rfl
  · intro q hq
    rcases List.mem_append.mp hq with htables | hentries
    · exact not_connects_of_earlier_table hnames hij hi hj htables
    · exact not_connects_of_earlier_entry hnames hne hindex rfl hentries

/-! ### Which shared keys are added -/

/-- A reference from the key of the earlier table, made at its first column, comes before
the shared key is offered. -/
theorem not_mem_infer_sharedKey (hnames : s.NamesDistinct) {i j : Nat} (hij : i < j)
    (hi : s.tables[i]? = some a) (hj : s.tables[j]? = some b) (hpair : s.SharedPair a b ka kb)
    (hhead : a.columns.head? = some ka) (hrefers : s.RefersByKey toSingular a b) :
    ⟨a.name, b.name, .sharedKey ka.name⟩ ∉ (s.infer toSingular).relationships := by
  have ha := List.mem_of_getElem? hi
  have hb := List.mem_of_getElem? hj
  have hfirst := ((refersByKey_iff hnames hb hpair.left hpair.right).mp hrefers).1
  obtain ⟨first, rest, hsplit, hapart⟩ :=
    offers_split_of_sharedPair toSingular hnames hij hi hj hpair hhead
  set references := (visit (s.keyIndex toSingular) a 0 ka).references a.name
    (KeyEntry.ofTable toSingular b.name kb.name)
  rw [← List.append_assoc] at hsplit
  have hoffer : ⟨a.name, b.name, .reference ka.name kb.name⟩ ∈ first ++ references :=
    List.mem_append_right _ ((mem_references_visit hfirst.mem 0).mpr ⟨hfirst.refers, rfl⟩)
  obtain ⟨q, hq, hcovers⟩ := Relationship.exists_covers_of_mem s.relationships hoffer
  have hqmem : q ∈ (s.infer toSingular).relationships := by
    rw [infer_relationships, hsplit, Relationship.acceptAll_append]
    exact Relationship.mem_acceptAll_of_mem _ hq
  obtain rfl :=
    eq_of_covers_of_refersByKey hnames ha hb hpair.left hpair.right hrefers hqmem hcovers
  intro hmem
  rcases mem_infer_relationships.mp hmem with hknown | hadded
  · exact hpair.free _ hknown (Relationship.connects_mk _ _ _) (sameName_refl _)
  rw [inferred, hsplit, Relationship.accepted_append] at hadded
  rcases List.mem_append.mp hadded with hbefore | hafter
  · -- It is neither of another pair of tables nor a reference.
    rcases List.mem_append.mp (Relationship.mem_offers_of_mem_accepted hbefore) with h | h
    · exact hapart _ h (Relationship.connects_mk _ _ _)
    · obtain ⟨-, h⟩ := (mem_references_visit hfirst.mem 0).mp h
      simp at h
  · refine Relationship.not_covers_of_mem_accepted hafter hq ?_
    exact Relationship.covers_mk_sharedKey.mpr ⟨Relationship.connects_mk _ _ _, sameName_refl _⟩

/-- Otherwise nothing keeps the shared key out. -/
theorem mem_infer_sharedKey (hnames : s.NamesDistinct) {i j : Nat} (hij : i < j)
    (hi : s.tables[i]? = some a) (hj : s.tables[j]? = some b) (hpair : s.SharedPair a b ka kb)
    (hlate : ¬ (a.columns.head? = some ka ∧ s.RefersByKey toSingular a b)) :
    ⟨a.name, b.name, .sharedKey ka.name⟩ ∈ (s.infer toSingular).relationships := by
  have ha := List.mem_of_getElem? hi
  have hb := List.mem_of_getElem? hj
  have hka := Table.mem_columns_of_primaryKey? hpair.left
  have hentry : KeyEntry.ofTable toSingular b.name kb.name ∈ s.keyIndex toSingular :=
    hnames.tablesDistinct.mem_keyIndex.mpr ⟨b, hb, kb, hpair.right, rfl⟩
  obtain ⟨c, hc⟩ := Option.isSome_iff_exists.mp (List.isSome_head?.mpr (List.ne_nil_of_mem hka))
  obtain ⟨first, rest, hsplit, hapart⟩ :=
    offers_split_of_sharedPair toSingular hnames hij hi hj hpair hc
  rw [← List.append_assoc] at hsplit
  rw [infer_relationships, hsplit]
  apply Relationship.mem_acceptAll_of_split
  intro q hq hcovers
  obtain ⟨hconnects, hcolumn⟩ := Relationship.covers_mk_sharedKey.mp hcovers
  rw [Relationship.acceptAll_eq_append, List.mem_append] at hq
  rcases hq with hknown | hadded
  · exact hpair.free q hknown hconnects hcolumn
  rcases List.mem_append.mp (Relationship.mem_offers_of_mem_accepted hadded) with h | h
  · exact hapart q h hconnects
  · have hinferred : q ∈ s.inferred toSingular := by
      rw [inferred, hsplit, Relationship.accepted_append]
      exact List.mem_append_left _ hadded
    obtain ⟨-, rfl⟩ := (mem_references_visit hentry 0).mp h
    obtain rfl := hnames.column_eq ha (List.mem_of_mem_head? hc) hka hcolumn
    exact hlate ⟨hc, refersByKey_of_mem_inferred hnames ha hb hpair.left hpair.right hinferred rfl
      (sameName_refl _) (sameName_refl _) hcolumn⟩

/-- A shared key that a run adds leads from the earlier of two tables with a common key to
the later. -/
theorem exists_sharedPair_of_mem_inferred (hnames : s.NamesDistinct) {tie : Relationship}
    (htie : tie ∈ s.inferred toSingular) (hkind : ¬ tie.isReference) :
    ∃ (i j : Nat) (a b : Table) (ka kb : Column), i < j ∧ s.tables[i]? = some a ∧
      s.tables[j]? = some b ∧ s.SharedPair a b ka kb ∧
        tie = ⟨a.name, b.name, .sharedKey ka.name⟩ := by
  obtain ⟨i, j, a, b, ka, kb, hij, hi, hj, hkey, rfl⟩ :=
    exists_commonKey_of_mem_inferred hnames.tablesDistinct htie hkind
  refine ⟨i, j, a, b, ka, kb, hij, hi, hj, ⟨hkey, ?_⟩, rfl⟩
  intro r hr hconnects hcolumn
  exact Relationship.not_covers_of_mem_accepted htie hr
    (Relationship.covers_mk_sharedKey.mpr ⟨hconnects, hcolumn⟩)

/-! ### When links on a key are single -/

/-- A reference from either key is another link beside the shared key. -/
theorem referencesFirst_of_tiesSingle (hnames : s.NamesDistinct)
    (h : TiesSingle (s.infer toSingular).relationships) : s.ReferencesFirst toSingular := by
  intro i j a b ka kb hij hi hj hpair hrefers
  have ha := List.mem_of_getElem? hi
  have hb := List.mem_of_getElem? hj
  by_contra hlate
  have htie := mem_infer_sharedKey hnames hij hi hj hpair hlate
  rcases hrefers with hleft | hright
  · refine h _ htie rfl _ (mem_infer_of_refersByKey hnames ha hb hpair.left hpair.right hleft) ?_
    exact ⟨by simp, Relationship.connects_mk _ _ _, sameName_refl _⟩
  · refine h _ htie rfl _ (mem_infer_of_refersByKey hnames hb ha hpair.right hpair.left hright) ?_
    refine ⟨by simp, ?_, hpair.symm.same⟩
    rw [Relationship.connects_comm]
    exact Relationship.connects_mk _ _ _

/-- A reference beside an added shared key would be one from either key. -/
theorem refersByKey_of_connects (hnames : s.NamesDistinct) (ha : a ∈ s.tables)
    (hb : b ∈ s.tables) (hpair : s.SharedPair a b ka kb) {r : Relationship}
    (hr : r ∈ s.inferred toSingular) (hreference : r.isReference)
    (hconnects : r.connects a.name b.name) (hcolumn : sameName r.sourceColumn ka.name) :
    s.RefersByKey toSingular a b ∨ s.RefersByKey toSingular b a := by
  rcases Relationship.connects_iff.mp hconnects with ⟨hsource, htarget⟩ | ⟨hsource, htarget⟩
  · exact Or.inl (refersByKey_of_mem_inferred hnames ha hb hpair.left hpair.right hr hreference
      hsource htarget hcolumn)
  · exact Or.inr (refersByKey_of_mem_inferred hnames hb ha hpair.right hpair.left hr hreference
      hsource htarget (sameName_trans hcolumn hpair.same))

theorem tiesSingle_of_referencesFirst (hnames : s.NamesDistinct)
    (hstart : ∀ r ∈ s.relationships, r.kind = .reference) (h : s.ReferencesFirst toSingular) :
    TiesSingle (s.infer toSingular).relationships := by
  have hknown : Relationship.Apart Relationship.SameTie s.relationships := by
    intro i j p q _ hp _ hsame
    have hreference := hstart p (List.mem_of_getElem? hp)
    rw [hsame.1] at hreference
    simp at hreference
  have hapart := Relationship.apart_sameTie_acceptAll (s.offers toSingular) hknown
  rw [← infer_relationships] at hapart
  intro tie htie hkind r hr hdoubles
  have htieinferred : tie ∈ s.inferred toSingular := by
    rcases mem_infer_relationships.mp htie with hold | hnew
    · rw [hstart tie hold] at hkind
      simp at hkind
    · exact hnew
  obtain ⟨i, j, a, b, ka, kb, hij, hi, hj, hpair, rfl⟩ :=
    exists_sharedPair_of_mem_inferred hnames htieinferred
      (Relationship.kind_eq_sharedKey.mp hkind)
  obtain ⟨hne, hconnects, hcolumn⟩ := hdoubles
  rcases mem_infer_relationships.mp hr with hold | hnew
  · exact hpair.free r hold hconnects hcolumn
  by_cases hreference : r.isReference
  · have hrefers := refersByKey_of_connects hnames (List.mem_of_getElem? hi)
      (List.mem_of_getElem? hj) hpair hnew hreference hconnects hcolumn
    obtain ⟨hhead, hleft⟩ := h i j a b ka kb hij hi hj hpair hrefers
    exact not_mem_infer_sharedKey hnames hij hi hj hpair hhead hleft htie
  · refine hne (hapart.eq_of_mem hr htie ?_)
    exact ⟨Relationship.kind_eq_sharedKey.mpr hreference, rfl,
      Relationship.connects_iff.mp hconnects, hcolumn⟩

end Schema

/--
**When links on a shared key are single.**  Where names are told apart and no shared key is
known from the start, a run leaves no link beside a shared key just if, whenever one of two
tables with a common key refers to the other by it, the earlier one does so from its first
column.
-/
theorem tiesSingle_infer_iff (toSingular : String → String) (s : Schema)
    (hnames : s.NamesDistinct) (hstart : ∀ r ∈ s.relationships, r.kind = .reference) :
    TiesSingle (s.infer toSingular).relationships ↔ s.ReferencesFirst toSingular :=
  ⟨Schema.referencesFirst_of_tiesSingle hnames, Schema.tiesSingle_of_referencesFirst hnames hstart⟩

/-- The key comes first, so the reference is made before the shared key is offered. -/
theorem tiesSingle_infer_iff_keyFirst :
    let s : Schema :=
      { tables := [
          { name := "profiles", columns := [{ name := "user_id", type := "INT", isPrimary := true },
            { name := "bio", type := "TEXT" }] },
          { name := "users",
            columns := [{ name := "user_id", type := "INT", isPrimary := true }] }] }
    s.NamesDistinct ∧ (∀ r ∈ s.relationships, r.kind = .reference) ∧
      TiesSingle (s.infer singular).relationships ∧ s.ReferencesFirst singular := by
  intro s
  have hnames : s.NamesDistinct := ⟨by decide, by decide⟩
  have hstart : ∀ r ∈ s.relationships, r.kind = .reference := by decide
  have hsingle : TiesSingle (s.infer singular).relationships := by decide +kernel
  exact ⟨hnames, hstart, hsingle, (tiesSingle_infer_iff singular s hnames hstart).mp hsingle⟩

/-- With another column before the key, the reference comes too late to keep the shared
key out. -/
theorem not_tiesSingle_keySecond :
    let s : Schema :=
      { tables := [
          { name := "profiles", columns := [{ name := "bio", type := "TEXT" },
            { name := "user_id", type := "INT", isPrimary := true }] },
          { name := "users",
            columns := [{ name := "user_id", type := "INT", isPrimary := true }] }] }
    s.NamesDistinct ∧ (∀ r ∈ s.relationships, r.kind = .reference) ∧
      ¬ TiesSingle (s.infer singular).relationships := by
  intro s
  exact ⟨⟨by decide, by decide⟩, by decide, by decide +kernel⟩

end TableGraph
