/-
The lower case of a part of a text.

One would expect that a part of a text is lower-cased to a part of its lower case.  That would
be so if lower-casing went character by character, and it does but for the capital sigma,
which is written `ς` at the end of a word.  Whether a sigma ends a word is decided by the
nearest character on either side that is not ignored, and that may stand outside the part.

There are two places in a part for such a sigma.  If it is the first character that is not
ignored, a letter before the part makes a word end in it, unless a letter follows within the
part.  If it is the last and a letter stands before it, a word ends in it, until a letter after
the part makes the word go on.  A part without a sigma in these places keeps its form, whatever
is put around it: every sigma in it has what decides on it inside.

For a part with such a sigma a single letter next to it is enough to lose it.  The letter turns
this one sigma into its other form and leaves all else as it is, so the form that the part has
occurs once less often in the longer text than in the part.
-/
import TableGraph.Text.Lowercase
import Mathlib.Data.List.Infix

namespace TableGraph.Text

/-! ### Looking for a letter -/

/-- What is looked for is in the first text, unless all of that is ignored. -/
theorem leadsToCased_append (s t : List Char) :
    leadsToCased (s ++ t) = if s.all isCaseIgnorable then leadsToCased t else leadsToCased s := by
  induction s with
  | nil => rfl
  | cons c rest ih =>
      unfold leadsToCased at ih ⊢
      rw [List.cons_append, List.dropWhile_cons, List.dropWhile_cons, List.all_cons]
      by_cases h : isCaseIgnorable c
      · rw [if_pos h, if_pos h, h, Bool.true_and]
        exact ih
      · simp [h]

theorem leadsToCased_of_ignored {s : List Char} (h : s.all isCaseIgnorable) :
    leadsToCased s = false := by
  have happend := leadsToCased_append s []
  rw [List.append_nil, if_pos h] at happend
  exact happend

theorem not_isCaseIgnorable_sigma : isCaseIgnorable 'Σ' = false := by decide +kernel

/-- What stands behind a sigma is of no interest to a search that comes to the sigma. -/
theorem leadsToCased_append_sigma (s t t' : List Char) :
    leadsToCased (s ++ 'Σ' :: t) = leadsToCased (s ++ 'Σ' :: t') := by
  have hsplit : ∀ u : List Char, leadsToCased (s ++ 'Σ' :: u) = leadsToCased (s ++ ['Σ']) := by
    intro u
    have hcounts : ¬ (s ++ ['Σ']).all isCaseIgnorable := by
      simp [not_isCaseIgnorable_sigma]
    rw [List.append_cons, leadsToCased_append, if_neg hcounts]
  rw [hsplit t, hsplit t']

/-! ### Lower case between two texts -/

/-- Lower-cases a text that stands between two others; `before` is written backwards. -/
def lowerBetween (before after : List Char) : List Char → List Char
  | [] => []
  | c :: rest =>
    (if c = 'Σ' then [if endsWord before (rest ++ after) then 'ς' else 'σ'] else lowerChar c)
      ++ lowerBetween (c :: before) after rest

theorem lowerAfter_eq_lowerBetween (text : List Char) :
    ∀ before : List Char, lowerAfter before text = lowerBetween before [] text := by
  induction text with
  | nil => intro before; rfl
  | cons c rest ih =>
      intro before
      rw [lowerAfter, lowerBetween, ih, List.append_nil]

theorem toList_lowercase (s : String) : (lowercase s).toList = lowerBetween [] [] s.toList := by
  rw [lowercase, String.toList_ofList, lowerAfter_eq_lowerBetween]

theorem lowerBetween_append (s t : List Char) :
    ∀ before after : List Char, lowerBetween before after (s ++ t)
      = lowerBetween before (t ++ after) s ++ lowerBetween (s.reverse ++ before) after t := by
  induction s with
  | nil => intro before after; rfl
  | cons c rest ih =>
      intro before after
      rw [List.cons_append, lowerBetween, lowerBetween, ih]
      simp only [List.append_assoc, List.reverse_cons, List.singleton_append]

/-- A sigma in the middle of a text, which is written as its surroundings say. -/
theorem lowerBetween_append_sigma (s t before after : List Char) :
    lowerBetween before after (s ++ 'Σ' :: t)
      = lowerBetween before ('Σ' :: (t ++ after)) s ++
        (if endsWord (s.reverse ++ before) (t ++ after) then 'ς' else 'σ') ::
          lowerBetween ('Σ' :: (s.reverse ++ before)) after t := by
  rw [lowerBetween_append, lowerBetween, if_pos rfl, List.cons_append, List.singleton_append]

/-- Only sigmas ask for what stands around a text. -/
theorem lowerBetween_congr (text : List Char) :
    ∀ {before after before' after' : List Char},
      (∀ s t, text = s ++ 'Σ' :: t → endsWord (s.reverse ++ before) (t ++ after)
        = endsWord (s.reverse ++ before') (t ++ after')) →
      lowerBetween before after text = lowerBetween before' after' text := by
  induction text with
  | nil => intro _ _ _ _ _; rfl
  | cons c rest ih =>
      intro before after before' after' h
      have hrest : lowerBetween (c :: before) after rest
          = lowerBetween (c :: before') after' rest := by
        apply ih
        intro s t hsplit
        simpa using h (c :: s) t (by rw [hsplit, List.cons_append])
      rw [lowerBetween, lowerBetween, hrest]
      by_cases hc : c = 'Σ'
      · have hfirst := h [] rest (by rw [hc, List.nil_append])
        rw [List.reverse_nil, List.nil_append, List.nil_append] at hfirst
        rw [hfirst]
      · rw [if_neg hc, if_neg hc]

/-- A text that is ignored has no sigma in it, so it does not matter where it stands. -/
theorem lowerBetween_of_ignored {text : List Char} (h : text.all isCaseIgnorable)
    (before after before' after' : List Char) :
    lowerBetween before after text = lowerBetween before' after' text := by
  apply lowerBetween_congr
  rintro s t rfl
  simp [not_isCaseIgnorable_sigma] at h

/-- What stands before a sigma makes no difference to what follows it. -/
theorem lowerBetween_sigma_before (before before' after text : List Char) :
    lowerBetween ('Σ' :: before) after text = lowerBetween ('Σ' :: before') after text := by
  apply lowerBetween_congr
  intro s t _
  rw [endsWord, endsWord, leadsToCased_append_sigma s.reverse before before']

/-- What follows a sigma makes no difference to what stands before it. -/
theorem lowerBetween_sigma_after (before after after' text : List Char) :
    lowerBetween before ('Σ' :: after) text = lowerBetween before ('Σ' :: after') text := by
  apply lowerBetween_congr
  intro s t _
  rw [endsWord, endsWord, leadsToCased_append_sigma t after after']

/-! ### Texts that keep their form -/

/-- The first character that is not ignored is a sigma, and no letter follows it: a word that
stands before the text would end in it. -/
def opensWithSigma (text : List Char) : Bool :=
  match text.dropWhile isCaseIgnorable with
  | c :: rest => c == 'Σ' && !leadsToCased rest
  | [] => false

/-- The last character that is not ignored is a sigma, and a letter stands before it: a word
ends in it that would go on with a letter after the text. -/
def closesWithSigma (text : List Char) : Bool :=
  match text.reverse.dropWhile isCaseIgnorable with
  | c :: before => c == 'Σ' && leadsToCased before
  | [] => false

/-- The text is lower-cased in the same way wherever it stands. -/
def keepsForm (text : String) : Bool :=
  !opensWithSigma text.toList && !closesWithSigma text.toList

/-- The first character that is not ignored is a sigma, just if all before some sigma is. -/
theorem dropWhile_eq_sigma_cons_iff {text rest : List Char} :
    text.dropWhile isCaseIgnorable = 'Σ' :: rest ↔
      ∃ ignored, text = ignored ++ 'Σ' :: rest ∧ ignored.all isCaseIgnorable := by
  constructor
  · intro h
    refine ⟨text.takeWhile isCaseIgnorable, ?_, List.all_takeWhile⟩
    rw [← h, List.takeWhile_append_dropWhile]
  · rintro ⟨ignored, rfl, hignored⟩
    rw [List.dropWhile_append_of_pos (List.all_eq_true.mp hignored),
      List.dropWhile_cons_of_neg (by simp [not_isCaseIgnorable_sigma])]

theorem opensWithSigma_iff {text : List Char} :
    opensWithSigma text ↔ ∃ s t, text = s ++ 'Σ' :: t ∧ s.all isCaseIgnorable ∧
      leadsToCased t = false := by
  constructor
  · intro h
    unfold opensWithSigma at h
    split at h
    · rename_i c rest hdrop
      obtain ⟨rfl, hrest⟩ : c = 'Σ' ∧ leadsToCased rest = false := by simpa using h
      obtain ⟨s, htext, hs⟩ := dropWhile_eq_sigma_cons_iff.mp hdrop
      exact ⟨s, rest, htext, hs, hrest⟩
    · cases h
  · rintro ⟨s, t, htext, hs, ht⟩
    rw [opensWithSigma, dropWhile_eq_sigma_cons_iff.mpr ⟨s, htext, hs⟩]
    simp [ht]

theorem closesWithSigma_iff {text : List Char} :
    closesWithSigma text ↔ ∃ s t, text = s ++ 'Σ' :: t ∧ t.all isCaseIgnorable ∧
      leadsToCased s.reverse := by
  constructor
  · intro h
    unfold closesWithSigma at h
    split at h
    · rename_i c before hdrop
      obtain ⟨rfl, hbefore⟩ : c = 'Σ' ∧ leadsToCased before := by simpa using h
      obtain ⟨t, htext, ht⟩ := dropWhile_eq_sigma_cons_iff.mp hdrop
      refine ⟨before.reverse, t.reverse, ?_, by simpa using ht, by simpa using hbefore⟩
      rw [← List.reverse_reverse text, htext]
      simp
    · cases h
  · rintro ⟨s, t, htext, ht, hs⟩
    have hreverse : text.reverse = t.reverse ++ 'Σ' :: s.reverse := by
      rw [htext]
      simp
    rw [closesWithSigma, dropWhile_eq_sigma_cons_iff.mpr ⟨t.reverse, hreverse, by simpa using ht⟩]
    simp [hs]

theorem keepsForm_of_sigma_not_mem {s : String} (h : 'Σ' ∉ s.toList) : keepsForm s := by
  have hopens : ¬ opensWithSigma s.toList := by
    intro hsigma
    obtain ⟨p, t, hsplit, -, -⟩ := opensWithSigma_iff.mp hsigma
    exact h (by simp [hsplit])
  have hcloses : ¬ closesWithSigma s.toList := by
    intro hsigma
    obtain ⟨p, t, hsplit, -, -⟩ := closesWithSigma_iff.mp hsigma
    exact h (by simp [hsplit])
  simp [keepsForm, hopens, hcloses]

/-- In a text that keeps its form, what decides on a sigma is inside. -/
theorem endsWord_of_keepsForm {s t : List Char} (hopens : ¬ opensWithSigma (s ++ 'Σ' :: t))
    (hcloses : ¬ closesWithSigma (s ++ 'Σ' :: t)) (before after : List Char) :
    endsWord (s.reverse ++ before) (t ++ after) = endsWord s.reverse t := by
  have hfirst : s.all isCaseIgnorable → leadsToCased t := by
    intro hs
    by_contra ht
    exact hopens (opensWithSigma_iff.mpr ⟨s, t, rfl, hs, by simpa using ht⟩)
  have hlast : t.all isCaseIgnorable → leadsToCased s.reverse = false := by
    intro ht
    by_contra hs
    exact hcloses (closesWithSigma_iff.mpr ⟨s, t, rfl, ht, by simpa using hs⟩)
  unfold endsWord
  rw [leadsToCased_append, leadsToCased_append, List.all_reverse]
  by_cases hs : s.all isCaseIgnorable
  · -- A letter follows, so no word ends here.
    have hletter := hfirst hs
    have ht : ¬ t.all isCaseIgnorable := by
      intro hignored
      rw [leadsToCased_of_ignored hignored] at hletter
      cases hletter
    simp [ht, hletter]
  · rw [if_neg hs]
    by_cases ht : t.all isCaseIgnorable
    · -- No letter stands before it, so no word ends here either.
      simp [hlast ht]
    · rw [if_neg ht]

/-- **A text that keeps its form** is lower-cased as if it stood alone. -/
theorem lowerBetween_of_keepsForm {s : String} (h : keepsForm s) (before after : List Char) :
    lowerBetween before after s.toList = (lowercase s).toList := by
  obtain ⟨hopens, hcloses⟩ : ¬ opensWithSigma s.toList ∧ ¬ closesWithSigma s.toList := by
    simpa [keepsForm] using h
  rw [toList_lowercase]
  apply lowerBetween_congr
  intro p q hsplit
  rw [hsplit] at hopens hcloses
  rw [endsWord_of_keepsForm hopens hcloses, List.append_nil, List.append_nil]

/-! ### Parts of a text -/

/-- A list in which one element is exchanged is no part of what it was, if what it has instead
is not added at the ends. -/
private theorem not_infix_exchanged {α : Type} [DecidableEq α] {c d : α} (hcd : c ≠ d)
    {xs ys first last : List α} (hfirst : c ∉ first) (hlast : c ∉ last) :
    ¬ (xs ++ c :: ys) <:+: (first ++ (xs ++ d :: ys) ++ last) := by
  intro h
  have hcount := h.sublist.count_le c
  simp only [List.count_append, List.count_cons_self, List.count_cons_of_ne hcd.symm,
    List.count_eq_zero.mpr hfirst, List.count_eq_zero.mpr hlast] at hcount
  omega

private theorem leadsToCased_letter : leadsToCased ['a'] = true := by decide +kernel

private theorem lowerBetween_letter_cons (before after text : List Char) :
    lowerBetween before after ('a' :: text)
      = ['a'] ++ lowerBetween ('a' :: before) after text := by
  have hsmall : lowerChar 'a' = ['a'] := by decide
  rw [lowerBetween, if_neg (by decide), hsmall]

/-- A letter before a text that begins with a sigma makes a word end in it. -/
theorem not_infix_of_opensWithSigma {text : List Char} (h : opensWithSigma text) :
    ¬ lowerBetween [] [] text <:+: lowerBetween [] [] ('a' :: text) := by
  obtain ⟨s, t, rfl, hs, ht⟩ := opensWithSigma_iff.mp h
  have halone : endsWord s.reverse t = false := by
    rw [endsWord, leadsToCased_of_ignored (by rwa [List.all_reverse]), Bool.false_and]
  have hletter : endsWord (s.reverse ++ ['a']) t = true := by
    rw [endsWord, leadsToCased_append, if_pos (by rwa [List.all_reverse]), leadsToCased_letter, ht]
    rfl
  rw [lowerBetween_letter_cons, lowerBetween_append_sigma, lowerBetween_append_sigma]
  simp only [List.append_nil, halone, hletter, if_true, Bool.false_eq_true, if_false]
  rw [lowerBetween_of_ignored hs ['a'] ('Σ' :: t) [] ('Σ' :: t),
    lowerBetween_sigma_before (s.reverse ++ ['a']) s.reverse,
    ← List.append_nil (['a'] ++ _)]
  exact not_infix_exchanged (by decide) (by decide) List.not_mem_nil

/-- A letter after a text that ends with a sigma makes the word in it go on. -/
theorem not_infix_of_closesWithSigma {text : List Char} (h : closesWithSigma text) :
    ¬ lowerBetween [] [] text <:+: lowerBetween [] [] (text ++ ['a']) := by
  obtain ⟨s, t, rfl, ht, hs⟩ := closesWithSigma_iff.mp h
  have halone : endsWord s.reverse t = true := by
    rw [endsWord, leadsToCased_of_ignored ht, hs]
    rfl
  have hletter : endsWord s.reverse (t ++ ['a']) = false := by
    rw [endsWord, leadsToCased_append t, if_pos ht, leadsToCased_letter, Bool.not_true,
      Bool.and_false]
  have hlast : ∀ before : List Char, lowerBetween before [] ['a'] = ['a'] := fun before => by
    rw [lowerBetween_letter_cons, lowerBetween, List.append_nil]
  rw [lowerBetween_append _ ['a'], hlast, lowerBetween_append_sigma, lowerBetween_append_sigma]
  simp only [List.append_nil, halone, hletter, if_true, Bool.false_eq_true, if_false]
  rw [lowerBetween_sigma_after [] (t ++ ['a']) t, lowerBetween_of_ignored ht _ ['a'] _ [],
    ← List.nil_append (_ ++ _ :: _)]
  exact not_infix_exchanged (by decide) List.not_mem_nil (by decide)

/-- **A text keeps its form just if the lower case of what it is a part of always has its own
lower case for a part.** -/
theorem keepsForm_iff {s : String} :
    keepsForm s ↔ ∀ text : String, s.toList <:+: text.toList →
      (lowercase s).toList <:+: (lowercase text).toList := by
  constructor
  · rintro h text ⟨before, after, htext⟩
    rw [toList_lowercase text, ← htext, lowerBetween_append, lowerBetween_append,
      lowerBetween_of_keepsForm h]
    exact List.infix_append _ _ _
  · intro h
    rw [keepsForm, Bool.and_eq_true, Bool.not_eq_true', Bool.not_eq_true']
    constructor
    · by_contra hopens
      have hin : s.toList <:+: (String.ofList ('a' :: s.toList)).toList := by
        rw [String.toList_ofList]
        exact (List.suffix_cons 'a' s.toList).isInfix
      have hpart := h _ hin
      rw [toList_lowercase, toList_lowercase, String.toList_ofList] at hpart
      exact not_infix_of_opensWithSigma (by simpa using hopens) hpart
    · by_contra hcloses
      have hin : s.toList <:+: (String.ofList (s.toList ++ ['a'])).toList := by
        rw [String.toList_ofList]
        exact (List.prefix_append s.toList ['a']).isInfix
      have hpart := h _ hin
      rw [toList_lowercase, toList_lowercase, String.toList_ofList] at hpart
      exact not_infix_of_closesWithSigma (by simpa using hcloses) hpart

/-- A sigma keeps its form before a letter, but not after one, and not on its own. -/
example : keepsForm "ΣΑ" ∧ ¬ keepsForm "ΑΣ" ∧ ¬ keepsForm "Σ" := by decide +kernel

end TableGraph.Text
