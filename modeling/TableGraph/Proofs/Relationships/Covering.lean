/-
Which relationships are added, and which are not.

Constraints and both rules of inference extend the list of known relationships in one
way.  Each offers a relationship, and the offer is accepted at the end of the list
unless a known one covers it: a reference is covered by a reference from the same
column to a column of the same name, whatever the table; a shared key by anything
between the two tables that starts from that column.  So a run is its list of offers,
and this file says what becomes of such a list.

Two facts carry what follows.  Every offer ends up covered, by itself or by what it met,
because covering is reflexive and the list only grows.  And what was accepted had an
uncovered place in the list of offers: nothing that stood before it, known or accepted,
covers it.  The second is stated with the list split at that place, because whoever uses
it wants to know what was offered earlier.
-/
import TableGraph.Schema.Basic

namespace TableGraph

open Text

namespace Relationship

/-- `r` makes it superfluous to add the relationship offered. -/
def covers (r offer : Relationship) : Bool :=
  match offer.link with
  | .reference column referred => r.sameReference offer.source column referred
  | .sharedKey column => r.connects offer.source offer.target && sameName r.sourceColumn column

/-! ### What covers what -/

@[simp] theorem isReference_mk (source target column referred : String) :
    isReference ⟨source, target, .reference column referred⟩ = true := rfl

@[simp] theorem isReference_mk_sharedKey (source target column : String) :
    isReference ⟨source, target, .sharedKey column⟩ = false := rfl

theorem kind_eq_reference {r : Relationship} : r.kind = .reference ↔ r.isReference := by
  simp [isReference]

theorem kind_eq_sharedKey {r : Relationship} : r.kind = .sharedKey ↔ ¬ r.isReference := by
  cases h : r.kind <;> simp [isReference, h]

theorem sameReference_iff {r : Relationship} {source column referred : String} :
    r.sameReference source column referred ↔ r.isReference ∧ sameName r.source source
      ∧ sameName r.sourceColumn column ∧ sameName r.targetColumn referred := by
  simp [sameReference, and_assoc]

theorem connects_iff {r : Relationship} {a b : String} :
    r.connects a b ↔ (sameName r.source a ∧ sameName r.target b)
      ∨ (sameName r.source b ∧ sameName r.target a) := by
  simp [connects]

@[simp] theorem connects_mk (source target : String) (link : Link) :
    connects ⟨source, target, link⟩ source target = true := by
  simp [connects]

theorem covers_of_isReference {r offer : Relationship} (h : offer.isReference) :
    r.covers offer = r.sameReference offer.source offer.sourceColumn offer.targetColumn := by
  obtain ⟨source, target, link⟩ := offer
  cases link with
  | reference column referred => rfl
  | sharedKey column => exact absurd h (by simp)

theorem covers_of_not_isReference {r offer : Relationship} (h : ¬ offer.isReference) :
    r.covers offer
      = (r.connects offer.source offer.target && sameName r.sourceColumn offer.sourceColumn) := by
  obtain ⟨source, target, link⟩ := offer
  cases link with
  | reference column referred => exact absurd (isReference_mk _ _ _ _) h
  | sharedKey column => rfl

theorem covers_mk_sharedKey {r : Relationship} {source target column : String} :
    r.covers ⟨source, target, .sharedKey column⟩ ↔
      r.connects source target ∧ sameName r.sourceColumn column := by
  simp [covers]

@[simp] theorem covers_refl (r : Relationship) : r.covers r := by
  by_cases h : r.isReference
  · simp [covers_of_isReference h, sameReference, h]
  · simp [covers_of_not_isReference h, connects]

/-- A reference is covered by references only. -/
theorem isReference_of_covers {r offer : Relationship} (hoffer : offer.isReference)
    (h : r.covers offer) : r.isReference := by
  rw [covers_of_isReference hoffer] at h
  exact (sameReference_iff.mp h).1

/-- Covering passes on between offers of one kind.  It does not from a reference to a
shared key: what covers the reference may lead to another table. -/
theorem covers_trans {r q offer : Relationship} (hrq : r.covers q) (hqo : q.covers offer)
    (hkind : q.isReference = offer.isReference) : r.covers offer := by
  by_cases h : offer.isReference
  · have hq : q.isReference := by rw [hkind]; exact h
    rw [covers_of_isReference hq, sameReference_iff] at hrq
    rw [covers_of_isReference h, sameReference_iff] at hqo ⊢
    exact ⟨hrq.1, sameName_trans hrq.2.1 hqo.2.1, sameName_trans hrq.2.2.1 hqo.2.2.1,
      sameName_trans hrq.2.2.2 hqo.2.2.2⟩
  · have hq : ¬ q.isReference := by rw [hkind]; exact h
    rw [covers_of_not_isReference hq, Bool.and_eq_true, connects_iff] at hrq
    rw [covers_of_not_isReference h, Bool.and_eq_true, connects_iff] at hqo ⊢
    refine ⟨?_, sameName_trans hrq.2 hqo.2⟩
    rcases hrq.1 with ⟨hs, ht⟩ | ⟨hs, ht⟩ <;> rcases hqo.1 with ⟨hs', ht'⟩ | ⟨hs', ht'⟩
    · exact Or.inl ⟨sameName_trans hs hs', sameName_trans ht ht'⟩
    · exact Or.inr ⟨sameName_trans hs hs', sameName_trans ht ht'⟩
    · exact Or.inr ⟨sameName_trans hs ht', sameName_trans ht hs'⟩
    · exact Or.inl ⟨sameName_trans hs ht', sameName_trans ht hs'⟩

/-! ### Accepting offers -/

/-- Adds the relationship offered, unless a known one covers it. -/
def accept (known : List Relationship) (offer : Relationship) : List Relationship :=
  if known.any (·.covers offer) then known else known ++ [offer]

/-- Accepts what is offered, in this order. -/
def acceptAll (known offers : List Relationship) : List Relationship := offers.foldl accept known

/-- What is added when these are offered. -/
def accepted (known offers : List Relationship) : List Relationship :=
  (acceptAll known offers).drop known.length

theorem record_eq_accept {r : Relationship} (h : r.isReference) (known : List Relationship) :
    record known r = accept known r := by
  simp only [record, accept, covers_of_isReference h]

@[simp] theorem acceptAll_nil (known : List Relationship) : acceptAll known [] = known := rfl

@[simp] theorem acceptAll_cons (known : List Relationship) (offer : Relationship)
    (rest : List Relationship) :
    acceptAll known (offer :: rest) = acceptAll (accept known offer) rest := rfl

theorem acceptAll_append (known first rest : List Relationship) :
    acceptAll known (first ++ rest) = acceptAll (acceptAll known first) rest :=
  List.foldl_append

theorem prefix_accept (known : List Relationship) (offer : Relationship) :
    known <+: accept known offer := by
  unfold accept
  by_cases h : known.any (·.covers offer)
  · simp only [if_pos h, List.prefix_refl]
  · simp only [if_neg h, List.prefix_append]

theorem prefix_acceptAll (offers : List Relationship) :
    ∀ known : List Relationship, known <+: acceptAll known offers := by
  induction offers with
  | nil => intro known; exact List.prefix_refl _
  | cons offer rest ih => intro known; exact (prefix_accept known offer).trans (ih _)

/-- What is known stays where it is, and what is accepted comes after it. -/
theorem acceptAll_eq_append (known offers : List Relationship) :
    acceptAll known offers = known ++ accepted known offers := by
  obtain ⟨added, h⟩ := prefix_acceptAll offers known
  rw [accepted, ← h, List.drop_left]

theorem accepted_append (known first rest : List Relationship) :
    accepted known (first ++ rest)
      = accepted known first ++ accepted (acceptAll known first) rest := by
  have h := acceptAll_eq_append (acceptAll known first) rest
  rw [← acceptAll_append, acceptAll_eq_append known (first ++ rest),
    acceptAll_eq_append known first, List.append_assoc] at h
  rw [List.append_cancel_left h, acceptAll_eq_append known first]

theorem mem_acceptAll_of_mem {known : List Relationship} (offers : List Relationship)
    {r : Relationship} (h : r ∈ known) : r ∈ acceptAll known offers :=
  (prefix_acceptAll offers known).subset h

/-! ### What became of an offer -/

theorem exists_covers_accept (known : List Relationship) (offer : Relationship) :
    ∃ r ∈ accept known offer, r.covers offer := by
  unfold accept
  by_cases h : known.any (·.covers offer)
  · rw [if_pos h]
    exact List.any_eq_true.mp h
  · rw [if_neg h]
    exact ⟨offer, by simp, covers_refl offer⟩

/-- **Every offer ends up covered.** -/
theorem exists_covers_of_mem {offers : List Relationship} {offer : Relationship} :
    ∀ (known : List Relationship), offer ∈ offers →
      ∃ r ∈ acceptAll known offers, r.covers offer := by
  induction offers with
  | nil => intro known h; simp at h
  | cons first rest ih =>
      intro known h
      rcases List.mem_cons.mp h with rfl | hrest
      · obtain ⟨r, hr, hcovers⟩ := exists_covers_accept known offer
        exact ⟨r, mem_acceptAll_of_mem rest hr, hcovers⟩
      · exact ih (accept known first) hrest

/-- **What was accepted was offered at a place where nothing covered it.** -/
theorem exists_split_of_mem_accepted {offers : List Relationship} {r : Relationship} :
    ∀ {known : List Relationship}, r ∈ accepted known offers →
      ∃ before after, offers = before ++ r :: after ∧
        ∀ q ∈ acceptAll known before, ¬ q.covers r := by
  induction offers with
  | nil => intro known h; simp [accepted] at h
  | cons offer rest ih =>
      intro known h
      rw [show offer :: rest = [offer] ++ rest from rfl, accepted_append, List.mem_append] at h
      rcases h with h | h
      · -- The list grew by this very offer.
        have hgrew := acceptAll_eq_append known [offer]
        rw [acceptAll_cons, acceptAll_nil, accept] at hgrew
        by_cases hany : known.any (·.covers offer)
        · rw [if_pos hany] at hgrew
          rw [List.self_eq_append_right.mp hgrew] at h
          simp at h
        · rw [if_neg hany] at hgrew
          rw [← List.append_cancel_left hgrew, List.mem_singleton] at h
          subst h
          refine ⟨[], rest, rfl, fun q hq hcovers => hany ?_⟩
          exact List.any_eq_true.mpr ⟨q, hq, hcovers⟩
      · obtain ⟨before, after, hsplit, hfree⟩ := ih h
        exact ⟨offer :: before, after, by rw [hsplit]; rfl, hfree⟩

/-- What was offered where nothing covered it was accepted. -/
theorem mem_acceptAll_of_split {known before after : List Relationship} {r : Relationship}
    (h : ∀ q ∈ acceptAll known before, ¬ q.covers r) :
    r ∈ acceptAll known (before ++ r :: after) := by
  rw [acceptAll_append, acceptAll_cons]
  apply mem_acceptAll_of_mem
  have hany : ¬ (acceptAll known before).any (·.covers r) := by
    intro hany
    obtain ⟨q, hq, hcovers⟩ := List.any_eq_true.mp hany
    exact h q hq hcovers
  rw [accept, if_neg hany]
  simp

/-- What is covered already changes nothing. -/
theorem acceptAll_of_covered {known : List Relationship} (offers : List Relationship) :
    (∀ offer ∈ offers, ∃ r ∈ known, r.covers offer) → acceptAll known offers = known := by
  induction offers with
  | nil => intro _; rfl
  | cons offer rest ih =>
      intro h
      have hany : known.any (·.covers offer) := List.any_eq_true.mpr (h offer (by simp))
      rw [acceptAll_cons, accept, if_pos hany]
      exact ih fun o ho => h o (by simp [ho])

theorem accepted_of_covered {known offers : List Relationship}
    (h : ∀ offer ∈ offers, ∃ r ∈ known, r.covers offer) : accepted known offers = [] := by
  rw [accepted, acceptAll_of_covered offers h, List.drop_length]

theorem mem_offers_of_mem_accepted {known offers : List Relationship} {r : Relationship}
    (h : r ∈ accepted known offers) : r ∈ offers := by
  obtain ⟨before, after, hsplit, -⟩ := exists_split_of_mem_accepted h
  rw [hsplit]
  simp

/-- No relationship known from the start covers one that was accepted. -/
theorem not_covers_of_mem_accepted {known offers : List Relationship} {r q : Relationship}
    (h : r ∈ accepted known offers) (hq : q ∈ known) : ¬ q.covers r := by
  obtain ⟨before, after, -, hfree⟩ := exists_split_of_mem_accepted h
  exact hfree q (mem_acceptAll_of_mem before hq)

/-- When the offers come in groups, whatever was accepted was accepted with its group. -/
theorem mem_accepted_flatMap {α : Type} (f : α → List Relationship) {r : Relationship}
    (l : List α) :
    ∀ {known : List Relationship}, r ∈ accepted known (l.flatMap f) ↔
      ∃ i a, l[i]? = some a ∧ r ∈ accepted (acceptAll known ((l.take i).flatMap f)) (f a) := by
  induction l with
  | nil => intro known; simp [accepted]
  | cons a rest ih =>
      intro known
      rw [List.flatMap_cons, accepted_append, List.mem_append, ih]
      constructor
      · rintro (h | ⟨i, b, hb, h⟩)
        · exact ⟨0, a, rfl, h⟩
        · refine ⟨i + 1, b, hb, ?_⟩
          rwa [List.take_succ_cons, List.flatMap_cons, acceptAll_append]
      · rintro ⟨i, b, hb, h⟩
        cases i with
        | zero =>
            obtain rfl : a = b := by simpa using hb
            exact Or.inl h
        | succ i =>
            rw [List.take_succ_cons, List.flatMap_cons, acceptAll_append] at h
            exact Or.inr ⟨i, b, hb, h⟩

/-- A relation that holds from what does not cover to what is not covered is kept to, from
every relationship to every later one. -/
theorem pairwise_acceptAll {R : Relationship → Relationship → Prop}
    (hR : ∀ a b : Relationship, ¬ a.covers b → R a b) (offers : List Relationship) :
    ∀ {known : List Relationship}, known.Pairwise R → (acceptAll known offers).Pairwise R := by
  induction offers with
  | nil => intro known h; exact h
  | cons offer rest ih =>
      intro known h
      apply ih
      unfold accept
      by_cases hany : known.any (·.covers offer)
      · rw [if_pos hany]; exact h
      · rw [if_neg hany]
        refine List.pairwise_append.mpr ⟨h, List.pairwise_singleton _ _, ?_⟩
        intro a ha b hb
        rw [List.mem_singleton.mp hb]
        exact hR a offer fun hcovers => hany (List.any_eq_true.mpr ⟨a, ha, hcovers⟩)

end Relationship

end TableGraph
