/-
What canonical text is cut into.

A piece is found by looking ahead, so what a word is cut into depends on the character after
it: a quote would make a text of the letter `N`, and a letter would belong to the word.  The
marks that stand between the words of canonical text do neither.  With that as the one
condition on what follows, a text can be cut from its end to its beginning, one piece at a
time, and the places where the pieces stand need not be followed.
-/
import Mathlib.Data.List.Chain
import TableGraph.Sql.Lexer
import TableGraph.Sql.Name

namespace TableGraph.Sql

/-- The text is cut into these tokens. -/
inductive Cut (d : Dialect) : List Char → List Token → Prop
  | nil : Cut d [] []
  | cons {c : Char} {rest : List Char} {p : Piece} {tokens : List Token}
      (first : piece d c rest = .ok p) (others : Cut d (rest.drop (p.size - 1)) tokens) :
      Cut d (c :: rest) (p.token.toList ++ tokens)

/-- Cutting finds the tokens, whatever was cut before. -/
theorem Cut.lexemesFrom {d : Dialect} {text : List Char} {tokens : List Token}
    (h : Cut d text tokens) : ∀ place done, ∃ found,
      lexemesFrom d place done text = .ok (done.reverse ++ found) ∧
        found.map (·.token) = tokens := by
  induction h with
  | nil =>
      intro place done
      exact ⟨[], by rw [Sql.lexemesFrom, List.append_nil], rfl⟩
  | @cons c rest p tokens hfirst _ ih =>
      intro place done
      rw [Sql.lexemesFrom, hfirst]
      obtain ⟨token, size⟩ := p
      have hnext := ih (((c :: rest).take size).foldl Location.after place)
      cases token with
      | none =>
          obtain ⟨found, hfound, htokens⟩ := hnext done
          exact ⟨found, hfound, htokens⟩
      | some t =>
          obtain ⟨found, hfound, htokens⟩ := hnext (⟨t, place⟩ :: done)
          exact ⟨⟨t, place⟩ :: found, by simpa using hfound, by simpa using htokens⟩

theorem Cut.lexemes {d : Dialect} {text : String} {tokens : List Token}
    (h : Cut d text.toList tokens) :
    ∃ found, lexemes d text = .ok found ∧ found.map (·.token) = tokens :=
  h.lexemesFrom .start []

/-! ### Texts and their tokens -/

/-- A text with separators is its first part, and then the others, each after a separator. -/
theorem intercalate_cons_eq (sep a : String) (l : List String) :
    sep.intercalate (a :: l) = a ++ String.join (l.map (sep ++ ·)) := by
  induction l generalizing a with
  | nil => simp
  | cons b l ih =>
      rw [String.intercalate_cons_cons, ih, List.map_cons, String.join_cons, String.append_assoc,
        String.append_assoc]

/-- The text is cut into exactly these tokens, if it is followed as asked for. -/
def Spells (d : Dialect) (s : String) (tokens : List Token) (next : Option Char → Prop) : Prop :=
  ∀ more others, next more.head? → Cut d more others →
    Cut d (s.toList ++ more) (tokens ++ others)

namespace Spells

variable {d : Dialect} {s t : String} {tokens others : List Token}
  {next next' middle : Option Char → Prop}

theorem nil : Spells d "" [] next := fun _ _ _ h => h

theorem append (hs : Spells d s tokens middle) (ht : Spells d t others next)
    (h : ∀ c, next c → middle (t.toList.head?.or c)) :
    Spells d (s ++ t) (tokens ++ others) next := by
  intro more rest hnext hrest
  rw [String.toList_append, List.append_assoc, List.append_assoc]
  refine hs _ _ ?_ (ht more rest hnext hrest)
  rw [List.head?_append]
  exact h _ hnext

theorem mono (hs : Spells d s tokens next) (h : ∀ c, next' c → next c) :
    Spells d s tokens next' :=
  fun more rest hnext hrest => hs more rest (h _ hnext) hrest

/-- Texts that may follow each other. -/
theorem join {β : Type} {textOf : β → String} {tokensOf : β → List Token} {items : List β}
    (h : ∀ b ∈ items, Spells d (textOf b) (tokensOf b) next)
    (hnext : ∀ b ∈ items, ∀ c, next c → next ((textOf b).toList.head?.or c)) :
    Spells d (String.join (items.map textOf)) (items.flatMap tokensOf) next ∧
      ∀ c, next c → next ((String.join (items.map textOf)).toList.head?.or c) := by
  induction items with
  | nil => exact ⟨nil, fun _ hc => hc⟩
  | cons b items ih =>
      obtain ⟨hb, hitems⟩ := List.forall_mem_cons.mp h
      obtain ⟨hbnext, hnext⟩ := List.forall_mem_cons.mp hnext
      obtain ⟨hjoin, hhead⟩ := ih hitems hnext
      rw [List.map_cons, String.join_cons, List.flatMap_cons]
      refine ⟨hb.append hjoin hhead, fun c hc => ?_⟩
      rw [String.toList_append, List.head?_append, Option.or_assoc]
      exact hbnext _ (hhead c hc)

/-- A first text, and then others, each after a separator. -/
theorem intercalate {β : Type} {sep : String} {between : List Token} (textOf : β → String)
    (tokensOf : β → List Token) {items : List β} {b : β}
    (hfirst : Spells d (textOf b) (tokensOf b) next)
    (hothers : ∀ x ∈ items, Spells d (sep ++ textOf x) (between ++ tokensOf x) next)
    (hsep : ∀ c, next c → next (sep.toList.head?.or c)) (hne : sep ≠ "") :
    Spells d (sep.intercalate ((b :: items).map textOf))
      (tokensOf b ++ items.flatMap fun x => between ++ tokensOf x) next := by
  have hhead : ∀ x ∈ items, ∀ c, next c → next ((sep ++ textOf x).toList.head?.or c) := by
    intro x _ c hc
    have hsome : sep.toList.head?.isSome := by simpa using hne
    have hchar : next sep.toList.head? := by
      rw [← Option.or_of_isSome hsome]
      exact hsep c hc
    rwa [String.toList_append, List.head?_append, Option.or_assoc, Option.or_of_isSome hsome]
  obtain ⟨hjoin, hnext⟩ := join hothers hhead
  rw [List.map_cons, intercalate_cons_eq, List.map_map]
  exact hfirst.append hjoin hnext

/-- What is spelled up to its end is what the text is cut into. -/
theorem lexemes (hs : Spells d s tokens next) (h : next none) :
    ∃ found, Sql.lexemes d s = .ok found ∧ found.map (·.token) = tokens := by
  have hcut := hs [] [] h .nil
  rw [List.append_nil, List.append_nil] at hcut
  exact hcut.lexemes

end Spells

/-! ### Words that need no quotes -/

/-- The text is a word as it stands.  One of its characters at least is no mark that begins
operators too. -/
def Dialect.isWord (d : Dialect) (s : String) : Bool :=
  match s.toList with
  | [] => false
  | c :: rest => d.startsWord c && rest.all d.continuesWord &&
      (c :: rest).any fun c => c != '#' && c != '@'

/-- The ASCII characters that belong to no word in any dialect. -/
def betweenWords : List Char := [
  ' ', '\t', '\n', '\r', '!', '"', '%', '&', '\'', '(', ')', '*', '+', ',', '-', '.', '/', ':',
  ';', '<', '=', '>', '?', '[', '\\', ']', '^', '\x60', '\x7b', '|', '\x7d', '~']

/-- What follows ends a word, and does not make a text of it. -/
def EndsWord (d : Dialect) (next : Option Char) : Prop :=
  ∀ c ∈ next, d.continuesWord c = false ∧ c ∉ ['\'', '"', '&']

section Words

variable {d : Dialect} {c : Char} {tail more : List Char}

theorem continuesWord_of_mem_betweenWords (h : c ∈ betweenWords) : d.continuesWord c = false := by
  have hall : betweenWords.all fun c => !d.continuesWord c := by cases d <;> decide +kernel
  simpa using List.all_eq_true.mp hall c h

theorem ne_of_continuesWord {m : Char} (h : d.continuesWord c) (hm : m ∈ betweenWords) :
    c ≠ m := by
  rintro rfl
  rw [continuesWord_of_mem_betweenWords hm] at h
  cases h

theorem continuesWord_of_startsWord (h : d.startsWord c) : d.continuesWord c := by
  simp [Dialect.continuesWord, h]

theorem endsWord_some (hc : c ∈ betweenWords) (hquote : c ∉ ['\'', '"', '&']) :
    EndsWord d (some c) := by
  intro e he
  obtain rfl : c = e := by simpa using he
  exact ⟨continuesWord_of_mem_betweenWords hc, hquote⟩

/-- A digit begins no word. -/
theorem not_isDigit_of_startsWord (h : d.startsWord c) : c.isDigit = false := by
  refine Bool.eq_false_iff.mpr fun hdigit => ?_
  have hrange : 48 ≤ c.toNat ∧ c.toNat ≤ 57 := by
    simpa [Char.isDigit, UInt32.le_iff_toNat_le, ← Char.toNat_val] using hdigit
  have hdigits : ∀ n < 58, 48 ≤ n → d.startsWord (Char.ofNat n) = false := by
    cases d <;> decide +kernel
  have hnot := hdigits c.toNat (by omega) hrange.1
  rw [Char.ofNat_toNat] at hnot
  rw [hnot] at h
  cases h

/-- A letter before a quote begins a text; before anything else it does not. -/
theorem letteredText?_eq_none {rest : List Char} (h : ∀ c ∈ rest.head?, c ∉ ['\'', '"', '&']) :
    letteredText? d c rest = none := by
  unfold letteredText?
  split <;> first | rfl | simp at h

theorem takeWhile_append_of_endsWord (hword : tail.all d.continuesWord)
    (hends : EndsWord d more.head?) :
    (tail ++ more).takeWhile d.continuesWord = tail := by
  rw [List.takeWhile_append_of_pos (by simpa using hword)]
  cases more with
  | nil => simp
  | cons e more => simp [(hends e rfl).1]

/-- What follows a character of a word makes no text of it. -/
theorem head?_append_not_quote (hword : tail.all d.continuesWord) (hends : EndsWord d more.head?) :
    ∀ c ∈ (tail ++ more).head?, c ∉ ['\'', '"', '&'] := by
  intro e he hmem
  cases tail with
  | nil => exact (hends e he).2 hmem
  | cons w tail =>
      obtain rfl : w = e := by simpa using he
      have hw : d.continuesWord w := List.all_eq_true.mp hword w List.mem_cons_self
      have hbetween : ['\'', '"', '&'] ⊆ betweenWords := by simp [betweenWords]
      exact ne_of_continuesWord hw (hbetween hmem) rfl

/-- Operators begin with characters that begin no word, and with two that may. -/
theorem operator?_eq_none {rest : List Char} (hstart : d.startsWord c) (hsharp : c ≠ '#')
    (hat : c ≠ '@') : operator? d (c :: rest) = none := by
  have hheads : ("//" :: operators).all fun op => op.toList.head?.any fun m =>
      betweenWords.contains m || m == '#' || m == '@' := by decide +kernel
  have hnone : ∀ op ∈ "//" :: operators, ¬ op.toList.isPrefixOf (c :: rest) := by
    intro op hop hprefix
    obtain ⟨m, hm, hmark⟩ : ∃ m ∈ op.toList.head?, (m ∈ betweenWords ∨ m = '#') ∨ m = '@' := by
      simpa [Option.any_eq_true] using List.all_eq_true.mp hheads op hop
    have hmc : m = c := by
      cases hchars : op.toList with
      | nil => rw [hchars] at hm; cases hm
      | cons m' tail =>
          rw [hchars] at hm hprefix
          simp only [List.isPrefixOf, Bool.and_eq_true, beq_iff_eq] at hprefix
          obtain rfl : m' = m := by simpa using hm
          exact hprefix.1
    rcases hmark with (hbetween | hmark) | hmark
    · exact ne_of_continuesWord (continuesWord_of_startsWord hstart) hbetween hmc.symm
    · exact hsharp (hmc.symm.trans hmark)
    · exact hat (hmc.symm.trans hmark)
  simp only [operator?, Option.map_eq_none_iff, List.find?_eq_none]
  intro op hop
  split at hop
  · exact hnone op hop
  · exact hnone op (List.mem_cons_of_mem _ hop)

/-- A mark that begins operators too begins none here. -/
theorem markedWord?_eq_some (hmark : c = '#' ∨ c = '@') (hstart : d.startsWord c)
    (hword : tail.all d.continuesWord) (hany : (c :: tail).any fun c => c != '#' && c != '@')
    (hends : EndsWord d more.head?) :
    markedWord? d (c :: (tail ++ more)) = some (.word (c :: tail)) := by
  cases tail with
  | nil => rcases hmark with rfl | rfl <;> simp at hany
  | cons w tail =>
      simp only [List.all_cons, Bool.and_eq_true] at hword
      have hw : w ≠ ' ' ∧ w ≠ '-' ∧ w ≠ '>' ∧ w ≠ '?' := by
        refine ⟨?_, ?_, ?_, ?_⟩ <;> exact ne_of_continuesWord hword.1 (by simp [betweenWords])
      have htake := takeWhile_append_of_endsWord hword.2 hends
      rcases hmark with rfl | rfl
      · simp [markedWord?, wordPiece, hstart, htake, hw]
      · by_cases hat : w = '@'
        · subst hat
          cases tail with
          | nil => simp at hany
          | cons v tail =>
              simp only [List.all_cons, Bool.and_eq_true] at hword
              have hv : v ≠ ' ' := ne_of_continuesWord hword.2.1 (by simp [betweenWords])
              have htake := takeWhile_append_of_endsWord hword.2.2 hends
              simp [markedWord?, wordPiece, hstart, htake, hv]
        · simp [markedWord?, wordPiece, hstart, htake, hw, hat]

theorem plainPiece_word (hstart : d.startsWord c) (hword : tail.all d.continuesWord)
    (hany : (c :: tail).any fun c => c != '#' && c != '@') (hends : EndsWord d more.head?) :
    plainPiece d c (tail ++ more) = .ok (.word (c :: tail)) := by
  unfold plainPiece
  by_cases hmark : c = '#' ∨ c = '@'
  · rw [markedWord?_eq_some hmark hstart hword hany hends]
    rfl
  · obtain ⟨hsharp, hat⟩ := not_or.mp hmark
    have hunmarked : markedWord? d (c :: (tail ++ more)) = none := by
      simp [markedWord?, hsharp, hat]
    have hquestion : c ≠ '?' :=
      ne_of_continuesWord (continuesWord_of_startsWord hstart) (by simp [betweenWords])
    have hpiece : wordPiece d 1 (c :: (tail ++ more)) = .word (c :: tail) := by
      simp [wordPiece, takeWhile_append_of_endsWord hword hends]
    rw [hunmarked, operator?_eq_none hstart hsharp hat, if_neg hquestion, if_pos hstart, hpiece]
    rfl

/-- What may stand inside a word begins a number, a comment or something plain. -/
theorem piece_of_continuesWord {rest : List Char} (hc : d.continuesWord c)
    (hrest : ∀ c ∈ rest.head?, c ∉ ['\'', '"', '&']) :
    piece d c rest =
      if c.isDigit then .ok (numberPiece d (c :: rest))
      else if c = '#' ∧ d.hasHashComments then .ok (lineComment (c :: rest))
      else plainPiece d c rest := by
  have hne : ∀ m ∈ betweenWords, c ≠ m := fun m => ne_of_continuesWord hc
  have hblank : ¬ (c = ' ' ∨ c = '\t' ∨ c = '\n' ∨ c = '\r') := by
    simp only [not_or]
    refine ⟨hne _ ?_, hne _ ?_, hne _ ?_, hne _ ?_⟩ <;> simp [betweenWords]
  have hquote : c ≠ '"' := hne _ (by simp [betweenWords])
  have hopens : d.opensWord c = false := by
    have hback : c ≠ '\x60' := hne _ (by simp [betweenWords])
    have hbracket : c ≠ '[' := hne _ (by simp [betweenWords])
    cases d <;> simp [Dialect.opensWord, hquote, hback, hbracket]
  have hpoint : c ≠ '.' := hne _ (by simp [betweenWords])
  unfold piece
  rw [if_neg hblank, letteredText?_eq_none hrest]
  simp only
  split
  · exact absurd rfl (hne '\'' (by simp [betweenWords]))
  · exact absurd rfl (hne '-' (by simp [betweenWords]))
  · exact absurd rfl (hne '/' (by simp [betweenWords]))
  · rw [if_neg fun h => hquote h.1, if_neg (by simp [hopens])]
    simp only [hpoint, or_false]

/-- Before what ends it, a word is cut off whole. -/
theorem piece_word (hstart : d.startsWord c) (hword : tail.all d.continuesWord)
    (hany : (c :: tail).any fun c => c != '#' && c != '@') (hends : EndsWord d more.head?) :
    piece d c (tail ++ more) = .ok (.word (c :: tail)) := by
  have hcomment : ¬ (c = '#' ∧ d.hasHashComments) := by
    rintro ⟨rfl, hhash⟩
    cases d with
    | mysql => exact absurd hstart (by decide)
    | _ => cases hhash
  rw [piece_of_continuesWord (continuesWord_of_startsWord hstart)
      (head?_append_not_quote hword hends), if_neg (by simp [not_isDigit_of_startsWord hstart]),
    if_neg hcomment, plainPiece_word hstart hword hany hends]

/-- A word that needs no quotes is one token. -/
theorem spells_word {w : String} (hw : d.isWord w) :
    Spells d w [.word (.bare w)] (EndsWord d) := by
  intro more tokens hends h
  unfold Dialect.isWord at hw
  cases hchars : w.toList with
  | nil => rw [hchars] at hw; cases hw
  | cons c rest =>
      rw [hchars] at hw
      simp only [Bool.and_eq_true] at hw
      obtain ⟨⟨hstart, hword⟩, hany⟩ := hw
      have hspelled : String.ofList (c :: rest) = w := by rw [← hchars, String.ofList_toList]
      have hothers : Cut d ((rest ++ more).drop ((Piece.word (c :: rest)).size - 1)) tokens := by
        simpa [Piece.word] using h
      rw [← hspelled]
      exact Cut.cons (piece_word hstart hword hany hends) hothers

end Words

/-! ### Marks, numbers and texts -/

section Marks

variable {d : Dialect} {more : List Char} {next : Option Char → Prop}

/-- A text of one character that is a piece whatever follows. -/
theorem spells_char {s : String} {c : Char} {t : Option Token} (hs : s.toList = [c])
    (h : ∀ more, next more.head? → piece d c more = .ok ⟨t, 1⟩) : Spells d s t.toList next := by
  intro more others hnext hothers
  rw [hs]
  exact Cut.cons (h more hnext) hothers

theorem spells_blank : Spells d " " [] next := spells_char (t := none) rfl fun _ _ => rfl

theorem spells_newline : Spells d "\n" [] next := spells_char (t := none) rfl fun _ _ => rfl

/-- A mark is one token, whatever follows. -/
theorem spells_mark {s : String} (hs : s ∈ ["(", ")", ",", ";", "]"]) :
    Spells d s [.symbol s] next := by
  have hpiece : ∀ c ∈ ['(', ')', ',', ';', ']'], ∀ more,
      piece d c more = .ok ⟨some (.symbol (String.singleton c)), 1⟩ := by
    intro c hc more
    simp only [List.mem_cons, List.not_mem_nil, or_false] at hc
    rcases hc with rfl | rfl | rfl | rfl | rfl <;> cases d <;> rfl
  obtain ⟨c, hc, rfl⟩ : ∃ c ∈ ['(', ')', ',', ';', ']'], String.singleton c = s := by
    simpa [eq_comm] using hs
  exact spells_char (String.toList_singleton c) fun more _ => hpiece c hc more

/-- Where a bracket does not open a word, it is a mark. -/
theorem spells_bracket (hd : d ≠ .sqlite) : Spells d "[" [.symbol "["] next := by
  have hpiece : ∀ more, piece d '[' more = .ok ⟨some (.symbol "["), 1⟩ := by
    intro more
    cases d with
    | sqlite => exact absurd rfl hd
    | _ => rfl
  exact spells_char rfl fun more _ => hpiece more

/-- A sign that makes no operator with the blank after it. -/
theorem spells_equals : Spells d "=" [.symbol "="] (· = some ' ') := by
  have hpiece : ∀ more, piece d '=' (' ' :: more) = .ok ⟨some (.symbol "="), 1⟩ := by
    intro more
    cases d <;> rfl
  refine spells_char (s := "=") (t := some (.symbol "=")) rfl fun more hmore => ?_
  obtain ⟨others, rfl⟩ := List.head?_eq_some_iff.mp hmore
  exact hpiece others

/-- A point before what is no digit is a mark. -/
theorem spells_point : Spells d "." [.symbol "."] fun next => ∀ c ∈ next, c.isDigit = false := by
  have hpiece : ∀ more, piece d '.' more = .ok (numberPiece d ('.' :: more)) := by
    intro more
    cases d <;> rfl
  refine spells_char (s := ".") (t := some (.symbol ".")) rfl fun more hmore =>
    (hpiece more).trans ?_
  cases more with
  | nil => rfl
  | cons c more => simp [numberPiece, hmore c rfl, Piece.symbol]

/-- The remark on a column that refers to a table is no token. -/
theorem spells_remark : Spells d "/* FK */" [] next := by
  intro more others _ hothers
  have hpiece : piece d '/' ("* FK */".toList ++ more) = .ok (.skip 8) := by cases d <;> rfl
  exact Cut.cons hpiece hothers

theorem continuesWord_of_isDigit {c : Char} (h : c.isDigit) : d.continuesWord c := by
  simp [Dialect.continuesWord, h]

/-- Before what ends it, a number is its digits. -/
theorem numberPiece_digits {digits : List Char} (hdigits : digits.all Char.isDigit)
    (hends : EndsWord d more.head?) (hpoint : more.head? ≠ some '.') :
    numberPiece d (digits ++ more)
      = ⟨some (.number (String.ofList digits) false), digits.length⟩ := by
  have hmore : more.takeWhile Char.isDigit = [] ∧ more.takeWhile d.continuesWord = [] ∧
      exponent more = [] ∧ (more.take 1).filter (· == '.') = [] ∧ more.head? ≠ some 'x' ∧
      more.head? ≠ some 'L' := by
    cases more with
    | nil => simp [exponent]
    | cons e more =>
        have he : ∀ c, d.continuesWord c → e ≠ c := by
          rintro c hc rfl
          rw [(hends e rfl).1] at hc
          cases hc
        have hdigit : e.isDigit = false :=
          Bool.eq_false_iff.mpr fun h => he e (continuesWord_of_isDigit h) rfl
        have hletters : e ≠ 'x' ∧ e ≠ 'L' ∧ e ≠ 'e' ∧ e ≠ 'E' := by
          refine ⟨he _ ?_, he _ ?_, he _ ?_, he _ ?_⟩ <;> cases d <;> decide
        have hpoint : e ≠ '.' := by simpa using hpoint
        simp [exponent, hdigit, (hends e rfl).1, hletters, hpoint]
  obtain ⟨hwhole, hletters, hexponent, hdot, hx, hlong⟩ := hmore
  have hdigits' : (digits ++ more).takeWhile Char.isDigit = digits := by
    rw [List.takeWhile_append_of_pos (by simpa using hdigits), hwhole, List.append_nil]
  have hpointless : digits ≠ ['.'] := by
    rintro rfl
    simp at hdigits
  simp [numberPiece, hdigits', hx, hdot, hwhole, hpointless, hletters, hexponent, hlong]

/-- The digits of a number are one token. -/
theorem spells_number {digits : String} (hne : digits ≠ "")
    (hdigits : digits.toList.all Char.isDigit) :
    Spells d digits [.number digits false] fun next => EndsWord d next ∧ next ≠ some '.' := by
  intro more others hnext hothers
  obtain ⟨hends, hpoint⟩ := hnext
  cases hchars : digits.toList with
  | nil => exact absurd (String.toList_eq_nil_iff.mp hchars) hne
  | cons c rest =>
      rw [hchars] at hdigits
      have hspelled : String.ofList (c :: rest) = digits := by
        rw [← hchars, String.ofList_toList]
      have hword : ∀ e ∈ c :: rest, d.continuesWord e := fun e he =>
        continuesWord_of_isDigit (List.all_eq_true.mp hdigits e he)
      have hpiece : piece d c (rest ++ more)
          = .ok ⟨some (.number digits false), (c :: rest).length⟩ := by
        have hrest : rest.all d.continuesWord :=
          List.all_eq_true.mpr fun e he => hword e (List.mem_cons_of_mem _ he)
        rw [piece_of_continuesWord (hword c List.mem_cons_self)
            (head?_append_not_quote hrest hends),
          if_pos (List.all_eq_true.mp hdigits c List.mem_cons_self), ← List.cons_append,
          numberPiece_digits hdigits hends hpoint, hspelled]
      exact Cut.cons hpiece (by simpa using hothers)

/-- Each quote of the text stands alone, and not after a backslash: where the text is written, it
is doubled. -/
def QuotesApart (quote : Char) (text : List Char) : Prop :=
  text.IsChain fun a b => b = quote → a ≠ quote ∧ a ≠ '\\'

instance (quote : Char) (text : List Char) : Decidable (QuotesApart quote text) :=
  inferInstanceAs (Decidable (List.IsChain _ _))

theorem quotesApart_of_notMem {quote : Char} {text : List Char} (h : quote ∉ text) :
    QuotesApart quote text := by
  refine List.Pairwise.isChain (List.pairwise_iff_forall_sublist.mpr ?_)
  rintro a b hsub rfl
  exact absurd (hsub.subset (by simp)) h

theorem markQuotes_cons {quote c : Char} {text : List Char} (h : QuotesApart quote (c :: text)) :
    markQuotes quote false (c :: text)
      = (if c = quote then [c, c] else [c]) ++ markQuotes quote false text := by
  cases text with
  | nil => by_cases hc : c = quote <;> simp [markQuotes, hc]
  | cons b text =>
      have hb := (List.isChain_cons_cons.mp h).1
      by_cases hc : c = quote
      · have hne : b ≠ quote := fun heq => (hb heq).1 hc
        simp [markQuotes, hc, hne]
      · have hmark : markQuotes quote (c == '\\') (b :: text)
            = markQuotes quote false (b :: text) := by
          by_cases hslash : c = '\\'
          · have hne : b ≠ quote := fun heq => (hb heq).2 hslash
            cases text <;> simp [markQuotes, hne]
          · rw [beq_false_of_ne hslash]
        rw [markQuotes, if_neg hc, if_neg hc, hmark, List.singleton_append]

/-- Reading a text goes up to its closing quote, and takes two quotes for one. -/
theorem closeQuote_markQuotes {quote : Char} {value : List Char} {escapes : Bool}
    (hquotes : QuotesApart quote value) (hescape : escapes → '\\' ∉ value)
    (hmore : more.head? ≠ some quote) : ∀ done taken,
      closeQuote quote escapes done taken (markQuotes quote false value ++ quote :: more)
        = some (done.reverse ++ value, taken + (markQuotes quote false value).length + 1) := by
  induction value with
  | nil =>
      intro done taken
      cases more with
      | nil => simp [markQuotes, closeQuote]
      | cons e more =>
          have he : e ≠ quote := by simpa using hmore
          simp [markQuotes, closeQuote, he]
  | cons v value ih =>
      intro done taken
      have ih := ih hquotes.of_cons fun h hmem => hescape h (List.mem_cons_of_mem _ hmem)
      rw [markQuotes_cons hquotes]
      by_cases hv : v = quote
      · simp only [hv, if_true, List.cons_append, List.nil_append]
        rw [closeQuote.eq_def]
        simp [ih]
        omega
      · have hplain : (escapes && v == '\\') = false := by
          cases escapes with
          | false => rfl
          | true =>
              have hv : v ≠ '\\' := fun heq => hescape rfl (by simp [heq])
              simp [hv]
        obtain ⟨e, others, hnext⟩ : ∃ e others,
            markQuotes quote false value ++ quote :: more = e :: others :=
          List.exists_cons_of_ne_nil (by simp)
        rw [if_neg hv, List.singleton_append, List.cons_append, hnext, closeQuote, if_neg hv,
          if_neg (by simp [hplain]), ← hnext, ih]
        simp only [List.reverse_cons, List.append_assoc, List.singleton_append, List.length_cons,
          Option.some.injEq, Prod.mk.injEq, true_and]
        omega

/-- What stands between quotes is one token, if it is one piece. -/
theorem spells_between {opening closing : Char} {written : List Char} {s : String} {token : Token}
    (hs : s.toList = opening :: (written ++ [closing]))
    (hpiece : ∀ more, next more.head? →
      piece d opening (written ++ closing :: more) = .ok ⟨some token, written.length + 2⟩) :
    Spells d s [token] next := by
  intro more others hnext hothers
  have hdrop : (written ++ closing :: more).drop (written.length + 1) = more := by
    simp [List.drop_append]
  have hchars : s.toList ++ more = opening :: (written ++ closing :: more) := by simp [hs]
  rw [hchars]
  exact Cut.cons (hpiece more hnext) (by simpa [hdrop] using hothers)

/-- A text whose quotes stand apart is one token, if it has no escapes. -/
theorem spells_singleQuoted {value : String} (hquotes : QuotesApart '\'' value.toList)
    (hescape : d.hasEscapes → '\\' ∉ value.toList) :
    Spells d (singleQuoted value) [.text .single value] (· ≠ some '\'') := by
  have hchars : (singleQuoted value).toList
      = '\'' :: (markQuotes '\'' false value.toList ++ ['\'']) := by
    rw [singleQuoted, quoted, String.toList_ofList]
  refine spells_between hchars fun more hmore => ?_
  have htext : piece d '\'' (markQuotes '\'' false value.toList ++ '\'' :: more)
      = markedText .single 0 '\'' d.hasEscapes
          (markQuotes '\'' false value.toList ++ '\'' :: more) := by
    cases d <;> rfl
  rw [htext, markedText, closeQuote_markQuotes hquotes hescape hmore]
  simp [closedText, Piece.text]
  omega

theorem opensWord_cases {quote : Char} (h : d.opensWord quote) :
    quote = '"' ∨ quote = '\x60' ∨ quote = '[' := by
  cases d <;> simp [Dialect.opensWord] at h <;> grind

/-- A word without its closing quote inside is written between its quotes. -/
theorem toList_render_quoted {quote : Char} {value : String} (hopens : d.opensWord quote)
    (hquote : closingQuote quote ∉ value.toList) :
    (Ident.render ⟨value, some quote⟩).toList
      = quote :: (value.toList ++ [closingQuote quote]) := by
  have hmarked := markQuotes_eq_self false hquote
  rcases opensWord_cases hopens with rfl | rfl | rfl
  · simpa [Ident.render, quoted, closingQuote] using hmarked
  · simpa [Ident.render, quoted, closingQuote] using hmarked
  · simp [Ident.render, closingQuote]

/-- A word without its closing quote inside is one token in its quotes. -/
theorem spells_quotedWord {quote : Char} {value : String} (hopens : d.opensWord quote)
    (hquote : closingQuote quote ∉ value.toList) :
    Spells d (Ident.render ⟨value, some quote⟩) [.word (.within quote value)]
      (· ≠ some (closingQuote quote)) := by
  refine spells_between (toList_render_quoted hopens hquote) fun more hmore => ?_
  have hword : piece d quote (value.toList ++ closingQuote quote :: more)
      = quotedWord quote (value.toList ++ closingQuote quote :: more) := by
    cases d <;> rcases opensWord_cases hopens with rfl | rfl | rfl <;>
      first | rfl | exact absurd hopens (by decide)
  have hclose : closeQuote (closingQuote quote) false [] 0
      (markQuotes (closingQuote quote) false value.toList ++ closingQuote quote :: more) = _ :=
    closeQuote_markQuotes (quotesApart_of_notMem hquote) (by simp) hmore [] 0
  rw [markQuotes_eq_self false hquote] at hclose
  rw [hword, quotedWord, hclose]
  simp

end Marks

/-! ### Names -/

/-- The text is a word that begins with digits, where there are such words.  What stands behind
the digits makes no other number of them. -/
def Dialect.isDigitWord (d : Dialect) (s : String) : Bool :=
  let digits := s.toList.takeWhile Char.isDigit
  let letters := s.toList.dropWhile Char.isDigit
  d.hasDigitWords && !digits.isEmpty && letters.all d.continuesWord &&
    letters.head?.any fun c => c.toLower != 'e' && (digits != ['0'] || c != 'x')

/-- The text is a word as it stands, whatever it begins with. -/
def Dialect.isName (d : Dialect) (s : String) : Bool := d.isWord s || d.isDigitWord s

section Names

variable {d : Dialect} {more : List Char}

/-- Before what ends it, a word that begins with digits is cut off whole. -/
theorem numberPiece_digitWord {digits letters : List Char} {l : Char} (hd : d.hasDigitWords)
    (hdigits : digits.all Char.isDigit) (hl : l.isDigit = false) (hexponent : l.toLower ≠ 'e')
    (hhex : digits = ['0'] → l ≠ 'x') (hletters : (l :: letters).all d.continuesWord)
    (hends : EndsWord d more.head?) :
    numberPiece d (digits ++ (l :: letters ++ more)) = .word (digits ++ l :: letters) := by
  have hwhole : (digits ++ (l :: letters ++ more)).takeWhile Char.isDigit = digits := by
    rw [List.takeWhile_append_of_pos (by simpa using hdigits)]
    simp [hl]
  have hrest : (digits ++ (l :: letters ++ more)).drop digits.length = l :: letters ++ more :=
    List.drop_left
  have hword := takeWhile_append_of_endsWord hletters hends
  have hpoint : l ≠ '.' := by
    simp only [List.all_cons, Bool.and_eq_true] at hletters
    exact ne_of_continuesWord hletters.1 (by simp [betweenWords])
  have hpointless : digits ≠ ['.'] := by
    rintro rfl
    simp at hdigits
  have hx : ¬ (digits = ['0'] ∧ (l :: letters ++ more).head? = some 'x') := by
    rintro ⟨hzero, hx⟩
    exact hhex hzero (by simpa using hx)
  unfold numberPiece
  simp only [hwhole, hrest]
  rw [if_neg hx]
  have hmark : ((l :: letters ++ more).take 1).filter (· == '.') = [] := by simp [hpoint]
  have hfraction : (l :: letters ++ more).takeWhile Char.isDigit = [] := by simp [hl]
  simp only [hmark, hfraction, List.length_nil, List.drop_zero, List.append_nil, hrest, hword]
  rw [if_neg hpointless]
  simp [hd, hexponent]

/-- A word that begins with digits is one token. -/
theorem spells_digitWord {w : String} (hw : d.isDigitWord w) :
    Spells d w [.word (.bare w)] (EndsWord d) := by
  intro more tokens hends h
  unfold Dialect.isDigitWord at hw
  simp only [Bool.and_eq_true, Bool.not_eq_true', List.isEmpty_eq_false_iff,
    Option.any_eq_true, bne_iff_ne, Bool.or_eq_true] at hw
  obtain ⟨⟨⟨hd, hne⟩, hword⟩, l, hl, hexponent, hhex⟩ := hw
  obtain ⟨letters, hletters⟩ := List.head?_eq_some_iff.mp hl
  obtain ⟨c, digits, hdigits⟩ := List.exists_cons_of_ne_nil hne
  have hdigit : l.isDigit = false := by
    have hnot := List.head?_dropWhile_not Char.isDigit w.toList
    rwa [hl] at hnot
  have hall : (c :: digits).all Char.isDigit := hdigits ▸ List.all_takeWhile
  have hchars : w.toList = c :: (digits ++ l :: letters) := by
    rw [← List.takeWhile_append_dropWhile (p := Char.isDigit) (l := w.toList), hdigits, hletters,
      List.cons_append]
  rw [hdigits] at hhex
  rw [hletters] at hword
  have hpiece := numberPiece_digitWord hd hall hdigit hexponent
    (fun hzero => hhex.resolve_left (· hzero)) hword hends
  have hrest : (digits ++ l :: letters).all d.continuesWord := by
    simp only [List.all_cons, Bool.and_eq_true] at hall
    rw [List.all_append, hword, Bool.and_true, List.all_eq_true]
    exact fun e he => continuesWord_of_isDigit (List.all_eq_true.mp hall.2 e he)
  have hspelled : String.ofList (c :: (digits ++ l :: letters)) = w := by
    rw [← hchars, String.ofList_toList]
  have hfirst : piece d c (digits ++ l :: letters ++ more)
      = .ok (.word (c :: (digits ++ l :: letters))) := by
    rw [piece_of_continuesWord (continuesWord_of_isDigit (List.all_eq_true.mp hall c (by simp)))
      (head?_append_not_quote hrest hends), if_pos (List.all_eq_true.mp hall c (by simp))]
    simpa using hpiece
  have hothers : Cut d ((digits ++ l :: letters ++ more).drop
      ((Piece.word (c :: (digits ++ l :: letters))).size - 1)) tokens := by
    have hsize : (Piece.word (c :: (digits ++ l :: letters))).size - 1
        = (digits ++ l :: letters).length := rfl
    rwa [hsize, List.drop_left]
  rw [← hspelled, String.toList_ofList]
  exact Cut.cons hfirst hothers

theorem spells_name {w : String} (hw : d.isName w) :
    Spells d w [.word (.bare w)] (EndsWord d) := by
  rcases Bool.or_eq_true_iff.mp hw with hw | hw
  · exact spells_word hw
  · exact spells_digitWord hw

end Names

end TableGraph.Sql
