/-
Recognising a dialect by its text.

A marker is looked for in the lower case of the whole text, and lower-casing does not go character
by character.  What stands around a part of the text decides on the form of a capital sigma in it,
and other letters become an ASCII character or two characters.  So one might fear that a marker is
lost when more text is put around it, or that one is made up of what is no marker.

The markers are out of reach of all this.  They are plain ASCII without a `k`, and none of them
ends in `i`, so what is looked for is a spelling of a marker in the text as it stands.  More text
can only add to what is found, and the first clue that is found only moves forward.
-/
import TableGraph.Proofs.Text.Lowercase
import TableGraph.Sql.Dialect

namespace TableGraph.Sql.Dialect

open Text

/-! ### What a clue looks for -/

theorem isPlainPart_of_mem_markers {clue : Clue} (hclue : clue ∈ clues) {marker : String}
    (hmarker : marker ∈ clue.markers) : isPlainPart marker.toList := by
  have hall : ∀ clue ∈ clues, ∀ marker ∈ clue.markers, isPlainPart marker.toList := by
    decide +kernel
  exact hall clue hclue marker hmarker

/-- The text has a spelling of a marker of the clue. -/
def Clue.SpelledIn (clue : Clue) (text : String) : Prop :=
  ∃ marker ∈ clue.markers, marker.toList <:+: (foldAscii text).toList

theorem found_iff_spelledIn {clue : Clue} (h : clue ∈ clues) (text : String) :
    clue.found (lowercase text) ↔ clue.SpelledIn text := by
  rw [Clue.found, List.any_eq_true, Clue.SpelledIn]
  refine exists_congr fun marker => and_congr_right fun hmarker => ?_
  exact contains_lowercase_iff (isPlainPart_of_mem_markers h hmarker) text

theorem toList_foldAscii_append (s t : String) :
    (foldAscii (s ++ t)).toList = (foldAscii s).toList ++ (foldAscii t).toList := by
  simp [foldAscii]

/-- A spelling of a marker is not lost in a longer text. -/
theorem Clue.SpelledIn.surrounded {clue : Clue} {part : String} (h : clue.SpelledIn part)
    (before after : String) : clue.SpelledIn (before ++ part ++ after) := by
  obtain ⟨marker, hmarker, hpart⟩ := h
  refine ⟨marker, hmarker, ?_⟩
  rw [toList_foldAscii_append, toList_foldAscii_append]
  exact hpart.trans (List.infix_append _ _ _)

/-! ### The first clue -/

/-- **The first clue** is not after the one at some place just if one of those up to it is
spelled in the text. -/
theorem clueIndex_le_iff {i : Nat} (hi : i < clues.length) (text : String) :
    clueIndex text ≤ i ↔ ∃ clue ∈ clues.take (i + 1), clue.SpelledIn text := by
  have hlength : clueIndex text ≤ clues.length := List.findIdx_le_length
  have htake : clueIndex text ≤ i ↔
      (clues.take (i + 1)).findIdx (Clue.found (lowercase text)) < (clues.take (i + 1)).length := by
    rw [List.findIdx_take, List.length_take]
    show clueIndex text ≤ i ↔ min (i + 1) (clueIndex text) < min (i + 1) clues.length
    omega
  rw [htake, List.findIdx_lt_length]
  exact exists_congr fun clue => and_congr_right fun hclue =>
    found_iff_spelledIn (List.mem_of_mem_take hclue) text

/-- The first clue of a part of a text is found in the text, if none before it is. -/
theorem clueIndex_surrounded_le (before part after : String) :
    clueIndex (before ++ part ++ after) ≤ clueIndex part := by
  refine List.findIdx_le_findIdx fun clue hclue hfound => ?_
  have hpart := (found_iff_spelledIn hclue part).mp hfound
  exact (found_iff_spelledIn hclue _).mpr (hpart.surrounded before after)

theorem detect_eq (text : String) :
    detect text = (clues[clueIndex text]?.map (·.dialect)).getD .generic := by
  rw [detect]
  cases clues[clueIndex text]? <;> rfl

theorem clueIndex_eq_of_sameName {text text' : String} (h : sameName text text') :
    clueIndex text = clueIndex text' := by
  rw [clueIndex, clueIndex, lowercase_eq_of_sameName h]

/--
**What is recognised in a part of a text is not undone by the rest.**  The outcomes are numbered in
the order in which they are tried: an outcome up to some clue means that a marker of one of the
clues up to it is spelled in the text.  The dialect is that of the clue, and the generic one where
there is none.  Text around a part leaves the outcome where it is or moves it forward, and the case
of ASCII letters does not matter.
-/
theorem detect_monotone :
    (∀ (text : String) (i : Nat), i < clues.length →
      (clueIndex text ≤ i ↔ ∃ clue ∈ clues.take (i + 1), ∃ marker ∈ clue.markers,
        marker.toList <:+: (foldAscii text).toList)) ∧
      (∀ text : String, detect text = (clues[clueIndex text]?.map (·.dialect)).getD .generic) ∧
      (∀ before part after : String,
        clueIndex (before ++ part ++ after) ≤ clueIndex part) ∧
      ∀ text text' : String, sameName text text' →
        clueIndex text = clueIndex text' ∧ detect text = detect text' := by
  refine ⟨fun text i hi => clueIndex_le_iff hi text, detect_eq, clueIndex_surrounded_le, ?_⟩
  intro text text' hsame
  have hindex := clueIndex_eq_of_sameName hsame
  exact ⟨hindex, by rw [detect, detect, hindex]⟩

/-- The sigma at the end of the part is `ς`, and with the letter behind it `σ`; the pragma in front
comes before the type in the order of the clues. -/
theorem detect_monotone_sigma :
    let part := "k SERIAL, ΟΔΟΣ"
    let text := "PRAGMA encoding; İ" ++ part ++ "Α"
    let spelled := "K Serial, ΟΔΟΣ"
    clueIndex part = 3 ∧ clueIndex text = 2 ∧ clueIndex text ≤ clueIndex part ∧
      sameName part spelled ∧ detect part = .postgresql ∧
      detect text = (clues[clueIndex text]?.map (·.dialect)).getD .generic ∧
      (clueIndex part = clueIndex spelled ∧ detect part = detect spelled) ∧
      (clueIndex part ≤ 2 ↔ ∃ clue ∈ clues.take 3, ∃ marker ∈ clue.markers,
        marker.toList <:+: (foldAscii part).toList) := by
  intro part text spelled
  have hsame : sameName part spelled := by decide +kernel
  obtain ⟨hmeaning, hdialect, hsurrounded, hcase⟩ := detect_monotone
  exact ⟨by decide +kernel, by decide +kernel, hsurrounded _ _ _, hsame, by decide +kernel,
    hdialect text, hcase part spelled hsame, hmeaning part 2 (by decide)⟩

end TableGraph.Sql.Dialect
