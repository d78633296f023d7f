/-
Every two tables with a common key are linked by it.

The shared-key rule is tried from either of two tables, and once for every column of each,
and every time it looks at all that is known by then.  What it offers does not depend on
any of this: a table with a key has a column at which the rule is tried, and the offer for
the other table is the same at all of them.  So both tables offer the link, and since an
offer ends up covered, some link is there in the end.

Which of the two offers is accepted is a matter of order.  The earlier table's comes
first, and whatever covers it covers the later table's offer as well, which is the same
shared key turned around.  So a shared key that is added leads from the earlier table to
the later one, under the name that the earlier one has for the key.
-/
import TableGraph.Proofs.Inference.DistinctNames
import TableGraph.Text.Singular

namespace TableGraph

open Text Inference

/-- The keys of the two tables have one name, which is not the generic one. -/
structure Table.CommonKey (a b : Table) (ka kb : Column) : Prop where
  left : a.primaryKey? = some ka
  right : b.primaryKey? = some kb
  same : sameName ka.name kb.name
  notGeneric : ¬ sameName ka.name genericKey

namespace Table.CommonKey

variable {a b : Table} {ka kb : Column}

theorem symm (h : a.CommonKey b ka kb) : b.CommonKey a kb ka where
  left := h.right
  right := h.left
  same := by rw [sameName_comm]; exact h.same
  notGeneric := fun hgeneric => h.notGeneric (sameName_trans h.same hgeneric)

theorem sharesKey (toSingular : String → String) (h : a.CommonKey b ka kb)
    (hne : lowercase b.name ≠ lowercase a.name) :
    SharesKey a (KeyEntry.ofTable toSingular b.name kb.name) ka.name :=
  ⟨hne, by rw [h.left]; rfl, h.same, h.notGeneric⟩

end Table.CommonKey

namespace Schema

variable {toSingular : String → String} {s : Schema} {a b : Table} {ka kb : Column}

/-! ### What two tables with a common key offer -/

/-- Each of the two offers a shared key with the other. -/
theorem sharedKey_mem_tableOffers (toSingular : String → String) (hdistinct : s.TablesDistinct)
    (hb : b ∈ s.tables) (hne : lowercase b.name ≠ lowercase a.name)
    (hkey : a.CommonKey b ka kb) :
    ⟨a.name, b.name, .sharedKey ka.name⟩ ∈ tableOffers (s.keyIndex toSingular) a := by
  have hentry : KeyEntry.ofTable toSingular b.name kb.name ∈ s.keyIndex toSingular :=
    hdistinct.mem_keyIndex.mpr ⟨b, hb, kb, hkey.right, rfl⟩
  exact mem_tableOffers.mpr ⟨ka, Table.mem_columns_of_primaryKey? hkey.left, _, hentry,
    Or.inr ⟨ka.name, hkey.sharesKey toSingular hne, rfl⟩⟩

/-- In the end the two are linked by their key. -/
theorem exists_link_of_commonKey (toSingular : String → String) (hdistinct : s.TablesDistinct)
    {i j : Nat} (hij : i < j) (hi : s.tables[i]? = some a) (hj : s.tables[j]? = some b)
    (hkey : a.CommonKey b ka kb) :
    ∃ r ∈ (s.infer toSingular).relationships,
      r.connects a.name b.name ∧ sameName r.sourceColumn ka.name := by
  have hoffer := sharedKey_mem_tableOffers toSingular hdistinct (List.mem_of_getElem? hj)
    (hdistinct.lowercase_ne hij hi hj).symm hkey
  rw [infer_relationships]
  obtain ⟨r, hr, hcovers⟩ := Relationship.exists_covers_of_mem s.relationships
    (List.mem_flatMap.mpr ⟨a, List.mem_of_getElem? hi, hoffer⟩)
  exact ⟨r, hr, Relationship.covers_mk_sharedKey.mp hcovers⟩

/-- When the run comes to the later of the two they are linked already: the earlier one
offered the same shared key, turned around. -/
theorem exists_covers_of_later (toSingular : String → String) (hdistinct : s.TablesDistinct)
    {i j : Nat} (hji : j < i) (hj : s.tables[j]? = some b) (hi : s.tables[i]? = some a)
    (hkey : a.CommonKey b ka kb) :
    ∃ q ∈ s.knownAt toSingular i, q.covers ⟨a.name, b.name, .sharedKey ka.name⟩ := by
  have hoffer := sharedKey_mem_tableOffers toSingular hdistinct (List.mem_of_getElem? hi)
    (hdistinct.lowercase_ne hji hj hi).symm hkey.symm
  obtain ⟨q, hq, hcovers⟩ := Relationship.exists_covers_of_mem s.relationships
    (List.mem_flatMap.mpr ⟨b, mem_take_iff_getElem?.mpr ⟨j, hji, hj⟩, hoffer⟩)
  have hturned : Relationship.covers ⟨b.name, a.name, .sharedKey kb.name⟩
      ⟨a.name, b.name, .sharedKey ka.name⟩ := by
    rw [Relationship.covers_mk_sharedKey, Relationship.connects_comm]
    exact ⟨Relationship.connects_mk _ _ _, hkey.symm.same⟩
  exact ⟨q, hq, Relationship.covers_trans hcovers hturned rfl⟩

/-! ### Which shared keys are added -/

/-- A shared key that a run adds leads from the earlier of two tables with a common key to
the later. -/
theorem exists_commonKey_of_mem_inferred (hdistinct : s.TablesDistinct) {tie : Relationship}
    (htie : tie ∈ s.inferred toSingular) (hkind : ¬ tie.isReference) :
    ∃ (i j : Nat) (a b : Table) (ka kb : Column), i < j ∧ s.tables[i]? = some a ∧
      s.tables[j]? = some b ∧ a.CommonKey b ka kb ∧
        tie = ⟨a.name, b.name, .sharedKey ka.name⟩ := by
  obtain ⟨i, a, hi, hmem⟩ := mem_inferred.mp htie
  obtain ⟨c, -, e, he, hoffer⟩ := mem_tableOffers.mp (Relationship.mem_offers_of_mem_accepted hmem)
  rcases hoffer with ⟨-, rfl⟩ | ⟨key, ⟨hne, hkey, hsame, hgeneric⟩, rfl⟩
  · exact absurd (Relationship.isReference_mk _ _ _ _) hkind
  obtain ⟨b, hb, kb, hkb, rfl⟩ := hdistinct.mem_keyIndex.mp he
  obtain ⟨ka, hka, rfl⟩ := Option.map_eq_some_iff.mp hkey
  obtain ⟨j, hj⟩ := List.mem_iff_getElem?.mp hb
  have hcommon : a.CommonKey b ka kb := ⟨hka, hkb, hsame, hgeneric⟩
  rcases Nat.lt_trichotomy i j with hlt | heq | hgt
  · exact ⟨i, j, a, b, ka, kb, hlt, hi, hj, hcommon, rfl⟩
  · subst heq
    obtain rfl := Option.some.inj (hi.symm.trans hj)
    exact absurd rfl hne
  · -- The offer was made at the later of the two tables, when the earlier one's stood already.
    obtain ⟨q, hq, hcovers⟩ := exists_covers_of_later toSingular hdistinct hgt hj hi hcommon
    exact absurd hcovers (Relationship.not_covers_of_mem_accepted hmem hq)

end Schema

/--
**The shared-key rule covers every pair, in the order of the tables.**  Where tables are
told apart by their names, any two with a common key end up linked by it, in one direction
or the other.  And every shared key that a run adds leads from the earlier of two such
tables to the later one, and has the name that the key has in the earlier one.
-/
theorem sharedKeyRule_covers_oriented (toSingular : String → String) (s : Schema)
    (hdistinct : s.TablesDistinct) :
    (∀ (i j : Nat) (a b : Table) (ka kb : Column), i < j → s.tables[i]? = some a →
      s.tables[j]? = some b → a.CommonKey b ka kb →
        ∃ r ∈ (s.infer toSingular).relationships,
          r.connects a.name b.name ∧ sameName r.sourceColumn ka.name) ∧
    ∃ added, (s.infer toSingular).relationships = s.relationships ++ added ∧
      ∀ r ∈ added, r.kind = .sharedKey →
        ∃ (i j : Nat) (a b : Table) (ka kb : Column), i < j ∧ s.tables[i]? = some a ∧
          s.tables[j]? = some b ∧ a.CommonKey b ka kb ∧ r.source = a.name ∧
            r.target = b.name ∧ r.sourceColumn = ka.name ∧ r.targetColumn = ka.name := by
  refine ⟨?_, s.inferred toSingular, Schema.infer_relationships_eq_append toSingular s, ?_⟩
  · intro i j a b ka kb hij hi hj hkey
    exact Schema.exists_link_of_commonKey toSingular hdistinct hij hi hj hkey
  · intro r hr hkind
    obtain ⟨i, j, a, b, ka, kb, hij, hi, hj, hkey, rfl⟩ :=
      Schema.exists_commonKey_of_mem_inferred hdistinct hr
        (Relationship.kind_eq_sharedKey.mp hkind)
    exact ⟨i, j, a, b, ka, kb, hij, hi, hj, hkey, rfl, rfl, rfl, rfl⟩

/-- The key is the second column of the earlier table, and the later one has the name twice.
The link that is known from the start leads to a third table. -/
theorem sharedKeyRule_covers_oriented_repeatedColumn :
    let accounts : Table :=
      { name := "accounts", columns := [{ name := "owner", type := "TEXT" },
          { name := "ACCT_NO", type := "INT", isPrimary := true }] }
    let profiles : Table :=
      { name := "profiles", columns := [{ name := "acct_no", type := "INT", isPrimary := true },
          { name := "Acct_No", type := "INT" }] }
    let s : Schema :=
      { tables := [accounts, { name := "logs" }, profiles]
        relationships := [⟨"profiles", "logs", .reference "acct_no" "line"⟩] }
    s.TablesDistinct ∧
      (∃ r ∈ (s.infer singular).relationships,
        r.connects "accounts" "profiles" ∧ sameName r.sourceColumn "acct_no") ∧
      ∃ added, (s.infer singular).relationships = s.relationships ++ added ∧
        ⟨"accounts", "profiles", .sharedKey "ACCT_NO"⟩ ∈ added ∧
          ∃ (i j : Nat) (a b : Table) (ka kb : Column), i < j ∧ s.tables[i]? = some a ∧
            s.tables[j]? = some b ∧ a.CommonKey b ka kb ∧ "accounts" = a.name ∧
              "profiles" = b.name ∧ "ACCT_NO" = ka.name := by
  intro accounts profiles s
  have hdistinct : s.TablesDistinct := by decide
  have hkey : accounts.CommonKey profiles { name := "ACCT_NO", type := "INT", isPrimary := true }
      { name := "acct_no", type := "INT", isPrimary := true } :=
    ⟨rfl, rfl, by decide, by decide⟩
  have hrun : (s.infer singular).relationships
      = s.relationships ++ [⟨"accounts", "profiles", .sharedKey "ACCT_NO"⟩] := by
    decide +kernel
  obtain ⟨hcovers, added, hadded, horiented⟩ := sharedKeyRule_covers_oriented singular s hdistinct
  have htie : ⟨"accounts", "profiles", .sharedKey "ACCT_NO"⟩ ∈ added := by
    rw [hadded] at hrun
    rw [List.append_cancel_left hrun]
    exact List.mem_singleton_self _
  obtain ⟨r, hr, hconnects, hcolumn⟩ := hcovers 0 2 accounts profiles _ _ (by decide) rfl rfl hkey
  obtain ⟨i, j, a, b, ka, kb, hij, hi, hj, hcommon, hsource, htarget, hname, -⟩ :=
    horiented _ htie rfl
  exact ⟨hdistinct, ⟨r, hr, hconnects, sameName_trans hcolumn (by decide)⟩, added, hadded, htie,
    i, j, a, b, ka, kb, hij, hi, hj, hcommon, hsource, htarget, hname⟩

end TableGraph
