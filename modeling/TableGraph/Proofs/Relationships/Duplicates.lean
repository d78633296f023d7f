/-
No relationship is recorded twice.

Two references are the same if they lead from one column of one table to columns of one
name; which table they lead to does not count.  Two shared keys are the same if they tie
the same two tables, whichever of them is the source, by the same column.  The list of
relationships grows in three places, each with a test of its own: where constraints are
applied, and in the two rules of inference.  All three are `accept`, so all that is needed
is that a duplicate would have been covered.

`covers` is not symmetric between the two kinds, and need not be: among references, and
among shared keys, it is exactly being the same.
-/
import TableGraph.Analysis
import TableGraph.Proofs.Schema.Constraints
import TableGraph.Proofs.Inference.Run

namespace TableGraph

open Text

namespace Relationship

/-- Two references from one column of one table to columns of one name. -/
def SameReference (a b : Relationship) : Prop :=
  a.kind = .reference ∧ b.kind = .reference ∧ sameName a.source b.source ∧
    sameName a.sourceColumn b.sourceColumn ∧ sameName a.targetColumn b.targetColumn

/-- Two shared keys that tie the same two tables by one column. -/
def SameTie (a b : Relationship) : Prop :=
  a.kind = .sharedKey ∧ b.kind = .sharedKey ∧
    ((sameName a.source b.source ∧ sameName a.target b.target) ∨
      (sameName a.source b.target ∧ sameName a.target b.source)) ∧
    sameName a.sourceColumn b.sourceColumn

instance (a b : Relationship) : Decidable (SameReference a b) :=
  inferInstanceAs (Decidable (_ ∧ _))

instance (a b : Relationship) : Decidable (SameTie a b) :=
  inferInstanceAs (Decidable (_ ∧ _))

/-- No two entries at different places are related. -/
def Apart (R : Relationship → Relationship → Prop) (rs : List Relationship) : Prop :=
  ∀ (i j : Nat) (a b : Relationship), i ≠ j → rs[i]? = some a → rs[j]? = some b → ¬ R a b

/-- The list has no reference and no shared key twice. -/
structure NoDuplicates (rs : List Relationship) : Prop where
  references : Apart SameReference rs
  ties : Apart SameTie rs

/-! ### Being the same -/

theorem SameReference.symm {a b : Relationship} (h : SameReference a b) : SameReference b a := by
  obtain ⟨ha, hb, hsource, hcolumn, htarget⟩ := h
  exact ⟨hb, ha, by rwa [sameName_comm], by rwa [sameName_comm], by rwa [sameName_comm]⟩

theorem SameTie.symm {a b : Relationship} (h : SameTie a b) : SameTie b a := by
  obtain ⟨ha, hb, hends, hcolumn⟩ := h
  refine ⟨hb, ha, ?_, by rwa [sameName_comm]⟩
  rcases hends with ⟨hs, ht⟩ | ⟨hs, ht⟩
  · exact Or.inl ⟨by rwa [sameName_comm], by rwa [sameName_comm]⟩
  · exact Or.inr ⟨by rwa [sameName_comm], by rwa [sameName_comm]⟩

theorem SameReference.covers {a b : Relationship} (h : SameReference a b) : a.covers b := by
  obtain ⟨ha, hb, hsame⟩ := h
  rw [covers_of_isReference (kind_eq_reference.mp hb), sameReference_iff]
  exact ⟨kind_eq_reference.mp ha, hsame⟩

theorem SameTie.covers {a b : Relationship} (h : SameTie a b) : a.covers b := by
  obtain ⟨-, hb, hends, hcolumn⟩ := h
  rw [covers_of_not_isReference (kind_eq_sharedKey.mp hb), Bool.and_eq_true, connects_iff]
  exact ⟨hends, hcolumn⟩

/-- For a symmetric relation it is enough to look from each entry to the later ones. -/
theorem apart_iff_pairwise {R : Relationship → Relationship → Prop}
    (hsymm : ∀ a b, R a b → R b a) {rs : List Relationship} :
    Apart R rs ↔ rs.Pairwise fun a b => ¬ R a b := by
  rw [List.pairwise_iff_getElem]
  constructor
  · intro h i j hi hj hij
    exact h i j _ _ (Nat.ne_of_lt hij) (List.getElem?_eq_getElem hi) (List.getElem?_eq_getElem hj)
  · intro h i j a b hij ha hb
    obtain ⟨hi, rfl⟩ := List.getElem?_eq_some_iff.mp ha
    obtain ⟨hj, rfl⟩ := List.getElem?_eq_some_iff.mp hb
    rcases Nat.lt_or_gt_of_ne hij with hlt | hgt
    · exact h i j hi hj hlt
    · exact fun hR => h j i hj hi hgt (hsymm _ _ hR)

theorem Apart.eq_of_mem {R : Relationship → Relationship → Prop} {rs : List Relationship}
    (h : Apart R rs) {a b : Relationship} (ha : a ∈ rs) (hb : b ∈ rs) (hR : R a b) : a = b := by
  obtain ⟨i, hi⟩ := List.mem_iff_getElem?.mp ha
  obtain ⟨j, hj⟩ := List.mem_iff_getElem?.mp hb
  by_cases hij : i = j
  · subst hij
    exact Option.some.inj (hi.symm.trans hj)
  · exact absurd hR (h i j a b hij hi hj)

/-! ### What accepting offers keeps -/

/-- A duplicate is never accepted. -/
theorem apart_acceptAll {R : Relationship → Relationship → Prop}
    (hsymm : ∀ a b, R a b → R b a) (hcovers : ∀ a b, R a b → a.covers b)
    {known : List Relationship} (offers : List Relationship) (h : Apart R known) :
    Apart R (acceptAll known offers) := by
  rw [apart_iff_pairwise hsymm] at h ⊢
  exact pairwise_acceptAll (fun a b hfree hR => hfree (hcovers a b hR)) offers h

theorem apart_sameReference_acceptAll {known : List Relationship} (offers : List Relationship)
    (h : Apart SameReference known) : Apart SameReference (acceptAll known offers) :=
  apart_acceptAll (fun _ _ => SameReference.symm) (fun _ _ => SameReference.covers) offers h

theorem apart_sameTie_acceptAll {known : List Relationship} (offers : List Relationship)
    (h : Apart SameTie known) : Apart SameTie (acceptAll known offers) :=
  apart_acceptAll (fun _ _ => SameTie.symm) (fun _ _ => SameTie.covers) offers h

theorem noDuplicates_nil : NoDuplicates [] :=
  ⟨fun i j a b _ ha => by simp at ha, fun i j a b _ ha => by simp at ha⟩

theorem NoDuplicates.acceptAll {known : List Relationship} (h : NoDuplicates known)
    (offers : List Relationship) : NoDuplicates (acceptAll known offers) :=
  ⟨apart_sameReference_acceptAll offers h.references, apart_sameTie_acceptAll offers h.ties⟩

end Relationship

open Relationship

theorem noDuplicates_ofScript (statements : List Script.Statement) :
    NoDuplicates (Schema.ofScript statements).relationships := by
  rw [Schema.ofScript_eq]
  exact noDuplicates_nil.acceptAll _

/--
**No relationship is recorded twice.**  Neither the declared constraints nor the whole
analysis lists one twice, and inference keeps each of the two properties, from any schema
that has it and whatever the names in it.
-/
theorem relationships_noDuplicates (toSingular : String → String) (options : Statistics.Options)
    (statements : List Script.Statement) (s : Schema) :
    NoDuplicates (Schema.ofScript statements).relationships ∧
      NoDuplicates (Analysis.ofScriptWith toSingular options statements).schema.relationships ∧
      (Apart SameReference s.relationships →
        Apart SameReference (s.infer toSingular).relationships) ∧
      (Apart SameTie s.relationships → Apart SameTie (s.infer toSingular).relationships) := by
  refine ⟨noDuplicates_ofScript statements, ?_, ?_, ?_⟩
  · show NoDuplicates ((Schema.ofScript statements).infer toSingular).relationships
    rw [Schema.infer_relationships]
    exact (noDuplicates_ofScript statements).acceptAll _
  · intro h
    rw [Schema.infer_relationships]
    exact apart_sameReference_acceptAll _ h
  · intro h
    rw [Schema.infer_relationships]
    exact apart_sameTie_acceptAll _ h

/-- The table `Orders` is declared twice, in two spellings, and one of its references is
known from the start. -/
theorem relationships_noDuplicates_repeatedTable :
    let s : Schema :=
      { tables := [
          { name := "user", columns := [{ name := "id", type := "INT", isPrimary := true }] },
          { name := "Orders", columns := [{ name := "code", type := "INT", isPrimary := true },
            { name := "user_id", type := "INT" }] },
          { name := "ORDERS", columns := [{ name := "CODE", type := "INT", isPrimary := true },
            { name := "User_ID", type := "INT" }, { name := "userid", type := "INT" }] }]
        relationships := [⟨"orders", "user", .reference "USER_ID" "ID"⟩,
          ⟨"orders", "items", .sharedKey "code"⟩] }
    (Apart SameReference s.relationships ∧ Apart SameTie s.relationships) ∧
      NoDuplicates (s.infer singular).relationships := by
  intro s
  have hreferences : Apart SameReference s.relationships :=
    (apart_iff_pairwise fun _ _ => SameReference.symm).mpr (by decide)
  have hties : Apart SameTie s.relationships :=
    (apart_iff_pairwise fun _ _ => SameTie.symm).mpr (by decide)
  obtain ⟨-, -, hkeepsReferences, hkeepsTies⟩ := relationships_noDuplicates singular {} [] s
  exact ⟨⟨hreferences, hties⟩, hkeepsReferences hreferences, hkeepsTies hties⟩

end TableGraph
