/-
Names that are the same have the same lower case.

Two comparisons of names live side by side: `sameName`, which only lets ASCII letters
differ in case, and equality after `lowercase`, which knows all of Unicode.  What is
proved here is that the first implies the second, so a rule that looks at a name in
lower case cannot tell two spellings of it apart.

That is not clear from the definitions, because `lowercase` is no map over the
characters: what becomes of a capital sigma depends on the characters around it.  But
all it asks of them is whether they have a case and whether they are ignored, and the
two spellings of an ASCII letter agree on both.  So the induction goes over two texts
at once, together with the two texts before them.

The second does not imply the first, because a letter above ASCII may have the same lower
case as another one.  It does for a name whose lower case is made of ASCII characters other
than `k`.  A part of a text that is made of them is looked for in the lower case of the text with
the same result as among its spellings.
-/
import TableGraph.Text.Case
import TableGraph.Text.Find
import TableGraph.Text.Lowercase
import Mathlib

namespace TableGraph.Text

/-! ### What lower-casing asks of a character -/

/-- A character that `Char.toLower` changes is an ASCII one, before and after. -/
private theorem ascii_of_isUpper {c : Char} (h : c.isUpper) :
    c.toNat < 0x80 ∧ c.toLower.toNat < 0x80 := by
  have hrange : 65 ≤ c.toNat ∧ c.toNat ≤ 90 := by
    simpa [Char.isUpper, UInt32.le_iff_toNat_le, ← Char.toNat_val] using h
  have hlower : c.toLower.toNat = c.toNat + 32 := by
    rw [Char.toLower_eq_of_isUpper h, Char.toNat_ofNat, if_pos]
    exact Or.inl (by omega)
  omega

theorem lowerChar_toLower (c : Char) : lowerChar c.toLower = lowerChar c := by
  by_cases h : c.isUpper
  · obtain ⟨hc, hl⟩ := ascii_of_isUpper h
    rw [lowerChar_of_ascii hc, lowerChar_of_ascii hl, Char.toLower_toLower_eq_toLower]
  · rw [Char.toLower_eq_of_not_isUpper h]

theorem isCased_toLower (c : Char) : isCased c.toLower = isCased c := by
  by_cases h : c.isUpper
  · obtain ⟨hc, hl⟩ := ascii_of_isUpper h
    simp only [isCased, if_pos hc, if_pos hl, Char.isAlpha_toLower_eq_isAlpha]
  · rw [Char.toLower_eq_of_not_isUpper h]

theorem isCaseIgnorable_toLower (c : Char) : isCaseIgnorable c.toLower = isCaseIgnorable c := by
  by_cases h : c.isUpper
  · obtain ⟨hc, hl⟩ := ascii_of_isUpper h
    -- No capital and no small letter is among the five marks.
    have hmark : ∀ m : Char, m.isAlpha = false → (c == m) = false ∧ (c.toLower == m) = false := by
      intro m hm
      have hcm : c.isAlpha = true := by simp [Char.isAlpha, h]
      constructor
      · exact beq_false_of_ne fun heq => by rw [heq, hm] at hcm; cases hcm
      · refine beq_false_of_ne fun heq => ?_
        rw [← Char.isAlpha_toLower_eq_isAlpha, heq, hm] at hcm
        cases hcm
    simp only [isCaseIgnorable, if_pos hc, if_pos hl]
    simp only [(hmark '\'' rfl).1, (hmark '\'' rfl).2, (hmark '.' rfl).1, (hmark '.' rfl).2,
      (hmark ':' rfl).1, (hmark ':' rfl).2, (hmark '^' rfl).1, (hmark '^' rfl).2,
      (hmark '\x60' rfl).1, (hmark '\x60' rfl).2]
  · rw [Char.toLower_eq_of_not_isUpper h]

theorem toLower_eq_sigma {c : Char} : c.toLower = 'Σ' ↔ c = 'Σ' := by
  by_cases h : c.isUpper
  · obtain ⟨hc, hl⟩ := ascii_of_isUpper h
    constructor
    · intro heq; rw [heq] at hl; exact absurd hl (by decide)
    · rintro rfl; exact absurd hc (by decide)
  · rw [Char.toLower_eq_of_not_isUpper h]

/-! ### What it makes of two spellings -/

/-- Whether a text leads to a character with a case does not depend on its spelling. -/
theorem leadsToCased_map_toLower (text : List Char) :
    leadsToCased (text.map Char.toLower) = leadsToCased text := by
  induction text with
  | nil => rfl
  | cons c rest ih =>
      unfold leadsToCased at ih ⊢
      rw [List.map_cons, List.dropWhile_cons, List.dropWhile_cons, isCaseIgnorable_toLower]
      by_cases h : isCaseIgnorable c
      · rw [if_pos h, if_pos h]; exact ih
      · rw [if_neg h, if_neg h]; exact isCased_toLower c

theorem lowerAfter_map_toLower (text : List Char) :
    ∀ before : List Char,
      lowerAfter (before.map Char.toLower) (text.map Char.toLower) = lowerAfter before text := by
  induction text with
  | nil => intro before; rfl
  | cons c rest ih =>
      intro before
      have hends : endsWord (before.map Char.toLower) (rest.map Char.toLower)
          = endsWord before rest := by
        simp only [endsWord, leadsToCased_map_toLower]
      have hrest := ih (c :: before)
      rw [List.map_cons] at hrest
      simp only [List.map_cons, lowerAfter, toLower_eq_sigma, lowerChar_toLower, hends, hrest]

/-- Folding the ASCII letters first makes no difference to lower-casing. -/
theorem lowercase_foldAscii (s : String) : lowercase (foldAscii s) = lowercase s := by
  have h := lowerAfter_map_toLower s.toList []
  simp only [lowercase, foldAscii, String.toList_ofList]
  rw [← h, List.map_nil]

/-- **Names that are the same have the same lower case.** -/
theorem lowercase_eq_of_sameName {a b : String} (h : sameName a b) :
    lowercase a = lowercase b := by
  rw [← lowercase_foldAscii a, ← lowercase_foldAscii b, sameName_iff.mp h]

/-! ### Texts in lower case that are ASCII

A text that is lower-cased to an ASCII one need not be one itself: the sign of the kelvin
becomes a `k`.  That is the only such sign, so a text without a `k` comes from the spellings
that `sameName` knows and from no others. -/

/-- The character is an ASCII one that no character above ASCII is lower-cased to. -/
def isPlainAscii (d : Char) : Bool := d.toNat < 0x80 && d != 'k'

/-- The small letters of a run of capitals are above ASCII, or it is the sign of the kelvin. -/
private theorem bounds_of_mem_capitalRuns : ∀ run ∈ capitalRuns,
    (0x80 ≤ run.first + run.shift ∧
      (run.last + run.shift < 0xD800 ∨
        0xDFFF < run.first + run.shift ∧ run.last + run.shift < 0x110000)) ∨
      (run.first = run.last ∧ run.first + run.shift = 'k'.toNat) := by
  decide +kernel

/-- The small letter that a run has for a character is above ASCII, or it is a `k`. -/
private theorem not_isPlainAscii_of_holds {run : CapitalRun} {n : Nat} (hrun : run ∈ capitalRuns)
    (hholds : run.holds n) : ¬ isPlainAscii (Char.ofNat (n + run.shift).toNat) := by
  simp only [CapitalRun.holds, Bool.and_eq_true, decide_eq_true_eq] at hholds
  obtain ⟨⟨hfirst, hlast⟩, -⟩ := hholds
  rcases bounds_of_mem_capitalRuns run hrun with ⟨hlow, hvalid⟩ | ⟨heq, hk⟩
  · have hnat : (Char.ofNat (n + run.shift).toNat).toNat = (n + run.shift).toNat := by
      rw [Char.toNat_ofNat, if_pos]
      unfold Nat.isValidChar
      omega
    simp only [isPlainAscii, hnat, Bool.and_eq_true, decide_eq_true_eq]
    omega
  · have hletter : (n + run.shift).toNat = 'k'.toNat := by omega
    rw [hletter]
    decide

private theorem not_isPlainAscii_of_le {c : Char} (h : 0x80 ≤ c.toNat) : ¬ isPlainAscii c := by
  simp [isPlainAscii, Nat.not_lt.mpr h]

/-- The small form of a character above ASCII ends in a character that is not plain. -/
theorem lowerChar_of_le {c : Char} (h : 0x80 ≤ c.toNat) :
    ∃ first d, lowerChar c = first ++ [d] ∧ (first = [] ∨ first = ['i']) ∧ ¬ isPlainAscii d := by
  unfold lowerChar
  rw [if_neg (Nat.not_lt.mpr h)]
  split
  · exact ⟨['i'], '\u0307', rfl, Or.inr rfl, by decide⟩
  · split
    · rename_i run hfound
      have hholds : run.holds c.toNat := by simpa using List.find?_some hfound
      exact ⟨[], _, rfl, Or.inl rfl,
        not_isPlainAscii_of_holds (List.mem_of_find?_eq_some hfound) hholds⟩
    · exact ⟨[], c, rfl, Or.inl rfl, not_isPlainAscii_of_le h⟩

/-- What a character above ASCII is lower-cased to, wherever it stands. -/
theorem lowerAfter_cons_of_le {c : Char} (h : 0x80 ≤ c.toNat) (before rest : List Char) :
    ∃ first d, lowerAfter before (c :: rest) = first ++ d :: lowerAfter (c :: before) rest ∧
      (first = [] ∨ first = ['i']) ∧ ¬ isPlainAscii d := by
  rw [lowerAfter]
  by_cases hsigma : c = 'Σ'
  · -- Neither small form of a sigma is ASCII.
    rw [if_pos hsigma]
    refine ⟨[], _, rfl, Or.inl rfl, ?_⟩
    split <;> decide
  · obtain ⟨first, d, hlower, hfirst, hd⟩ := lowerChar_of_le h
    rw [if_neg hsigma, hlower, List.append_assoc, List.singleton_append]
    exact ⟨first, d, rfl, hfirst, hd⟩

theorem lowerAfter_cons_of_lt {c : Char} (h : c.toNat < 0x80) (before rest : List Char) :
    lowerAfter before (c :: rest) = c.toLower :: lowerAfter (c :: before) rest := by
  have hsigma : c ≠ 'Σ' := by
    rintro rfl
    exact absurd h (by decide)
  rw [lowerAfter, if_neg hsigma, lowerChar_of_ascii h, List.singleton_append]

theorem lowerAfter_eq_map_toLower (text : List Char) :
    ∀ before : List Char, (∀ d ∈ lowerAfter before text, isPlainAscii d) →
      lowerAfter before text = text.map Char.toLower := by
  induction text with
  | nil => intro before _; rfl
  | cons c rest ih =>
      intro before hplain
      by_cases hascii : c.toNat < 0x80
      · rw [lowerAfter_cons_of_lt hascii] at hplain ⊢
        rw [ih _ fun d hd => hplain d (List.mem_cons_of_mem _ hd), List.map_cons]
      · obtain ⟨first, d, hlower, -, hd⟩ := lowerAfter_cons_of_le (Nat.not_lt.mp hascii) before rest
        exact absurd (hplain d (by simp [hlower])) hd

/-- **A text that is lower-cased to ASCII letters other than `k` is a spelling of them.** -/
theorem sameName_of_lowercase_eq {s name : String} (hplain : ∀ d ∈ name.toList, isPlainAscii d)
    (h : lowercase s = name) : sameName s name := by
  have hchars : lowerAfter [] s.toList = name.toList := by
    rw [← h, lowercase, String.toList_ofList]
  have hmap := lowerAfter_eq_map_toLower s.toList [] (by rwa [hchars])
  rw [sameName_iff, ← h, lowercase, hmap]
  simp [foldAscii, Function.comp_def, Char.toLower_toLower_eq_toLower]

/-! ### Parts of a text that are ASCII

A part that is plain stands in the lower case of a text just where the text has a spelling of it.
What could be in the way is the letter `İ`, which becomes an `i` and a dot that is a character of
its own.  Within a part the dot gives it away, so all that is asked besides is that the part does
not end in `i`. -/

/-- The part is plain and does not end in `i`. -/
def isPlainPart (part : List Char) : Bool := part.all isPlainAscii && part.getLast? != some 'i'

private theorem isPlainAscii_of_isPlainPart {part : List Char} (h : isPlainPart part) {d : Char}
    (hd : d ∈ part) : isPlainAscii d :=
  List.all_eq_true.mp (Bool.and_eq_true_iff.mp h).1 d hd

private theorem isPlainPart_tail {d : Char} {tail : List Char} (h : isPlainPart (d :: tail)) :
    isPlainPart tail := by
  obtain ⟨hall, hlast⟩ := Bool.and_eq_true_iff.mp h
  obtain ⟨-, htail⟩ := Bool.and_eq_true_iff.mp (List.all_cons ▸ hall)
  refine Bool.and_eq_true_iff.mpr ⟨htail, bne_iff_ne.mpr fun h => bne_iff_ne.mp hlast ?_⟩
  rw [List.getLast?_cons, h]
  rfl

private theorem toLower_of_le {c : Char} (h : 0x80 ≤ c.toNat) : c.toLower = c := by
  refine Char.toLower_eq_of_not_isUpper fun hupper => ?_
  have hlt := (ascii_of_isUpper hupper).1
  omega

/-- A plain part does not begin with the small form of a letter above ASCII. -/
private theorem not_prefix_above {part first : List Char} (hpart : isPlainPart part)
    (hne : part ≠ []) (hfirst : first = [] ∨ first = ['i']) {d : Char} (hd : ¬ isPlainAscii d)
    (rest : List Char) : ¬ part <+: first ++ d :: rest := by
  obtain ⟨e, tail, rfl⟩ := List.exists_cons_of_ne_nil hne
  rcases hfirst with rfl | rfl
  · rw [List.nil_append, List.cons_prefix_cons]
    rintro ⟨rfl, -⟩
    exact hd (isPlainAscii_of_isPlainPart hpart List.mem_cons_self)
  · rw [List.singleton_append, List.cons_prefix_cons]
    rintro ⟨rfl, htail⟩
    rcases tail with _ | ⟨f, tail⟩
    · exact absurd hpart (by decide)
    · obtain ⟨rfl, -⟩ := List.cons_prefix_cons.mp htail
      exact hd (isPlainAscii_of_isPlainPart hpart (by simp))

/-- A plain part of a text that begins with such a small form stands behind it. -/
private theorem infix_above_iff {part first : List Char} (hpart : isPlainPart part)
    (hfirst : first = [] ∨ first = ['i']) {d : Char} (hd : ¬ isPlainAscii d) (rest : List Char) :
    part <:+: first ++ d :: rest ↔ part <:+: rest := by
  by_cases hne : part = []
  · simp [hne]
  have hbehind : part <:+: d :: rest ↔ part <:+: rest := by
    have hnot : ¬ part <+: d :: rest := not_prefix_above hpart hne (Or.inl rfl) hd rest
    rw [List.infix_cons_iff, or_iff_right hnot]
  rcases hfirst with rfl | rfl
  · exact hbehind
  · have hnot : ¬ part <+: 'i' :: d :: rest := not_prefix_above hpart hne (Or.inr rfl) hd rest
    rw [List.singleton_append, List.infix_cons_iff, or_iff_right hnot, hbehind]

theorem prefix_lowerAfter_iff (text : List Char) :
    ∀ {part : List Char} (before : List Char), isPlainPart part →
      (part <+: lowerAfter before text ↔ part <+: text.map Char.toLower) := by
  induction text with
  | nil => intro part before _; rfl
  | cons c rest ih =>
      intro part before hpart
      by_cases hne : part = []
      · simp [hne]
      by_cases hascii : c.toNat < 0x80
      · obtain ⟨d, tail, rfl⟩ := List.exists_cons_of_ne_nil hne
        rw [lowerAfter_cons_of_lt hascii, List.map_cons, List.cons_prefix_cons,
          List.cons_prefix_cons, ih _ (isPlainPart_tail hpart)]
      · have habove := Nat.not_lt.mp hascii
        obtain ⟨first, d, hlower, hfirst, hd⟩ := lowerAfter_cons_of_le habove before rest
        have hsmall := not_prefix_above hpart hne hfirst hd (lowerAfter (c :: before) rest)
        have hletter := not_prefix_above hpart hne (Or.inl rfl) (not_isPlainAscii_of_le habove)
          (rest.map Char.toLower)
        rw [hlower, List.map_cons, toLower_of_le habove]
        exact iff_of_false hsmall hletter

theorem infix_lowerAfter_iff {part : List Char} (hpart : isPlainPart part) (text : List Char) :
    ∀ before : List Char, part <:+: lowerAfter before text ↔ part <:+: text.map Char.toLower := by
  induction text with
  | nil => intro before; rfl
  | cons c rest ih =>
      intro before
      by_cases hascii : c.toNat < 0x80
      · have hprefix := prefix_lowerAfter_iff (c :: rest) before hpart
        rw [lowerAfter_cons_of_lt hascii, List.map_cons] at hprefix ⊢
        rw [List.infix_cons_iff, List.infix_cons_iff, hprefix, ih]
      · have habove := Nat.not_lt.mp hascii
        obtain ⟨first, d, hlower, hfirst, hd⟩ := lowerAfter_cons_of_le habove before rest
        have hletter : part <:+: c :: rest.map Char.toLower ↔ part <:+: rest.map Char.toLower :=
          infix_above_iff hpart (Or.inl rfl) (not_isPlainAscii_of_le habove) _
        rw [hlower, infix_above_iff hpart hfirst hd, ih, List.map_cons, toLower_of_le habove,
          hletter]

/-- **A plain part that does not end in `i`** is found in the lower case of a text just if the text
has a spelling of it. -/
theorem contains_lowercase_iff {part : String} (h : isPlainPart part.toList) (text : String) :
    contains (lowercase text) part ↔ part.toList <:+: (foldAscii text).toList := by
  rw [contains_iff, lowercase, foldAscii, String.toList_ofList, String.toList_ofList,
    infix_lowerAfter_iff h]

/-! ### Names that tell things apart -/

/-- Where no two things have the same name, a name stands for one of them. -/
theorem eq_of_sameName {α : Type} {name : α → String} {l : List α}
    (h : l.Pairwise fun a b => ¬ sameName (name a) (name b)) {a b : α} (ha : a ∈ l) (hb : b ∈ l)
    (hsame : sameName (name a) (name b)) : a = b := by
  by_contra hne
  have hsymm : Std.Symm fun a b : α => ¬ sameName (name a) (name b) :=
    ⟨fun a b hab => by rwa [sameName_comm]⟩
  exact h.forall ha hb hne hsame

end TableGraph.Text
