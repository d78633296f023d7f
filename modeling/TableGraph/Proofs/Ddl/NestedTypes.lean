/-
Types inside other types.

The elements of an array have a type of their own, which is written in angles or before
brackets.  Two angles that close together are one token, and with it the array inside takes the
angle of the array around it.  So what is taken for a type depends on how many angles come after
the rest of it: its own, or one more, where its own are odd in number.  Brackets belong to the
type before them, which is not the array that is closed last if its angle was taken before.
-/
import TableGraph.Proofs.Ddl.PlainTypes

namespace TableGraph.Sql

open TableGraph.Sql.Parser

variable {d : Dialect} {next : Option Char → Prop}

/-! ### Angles -/

/-- Closing angles. -/
def angles (k : Nat) : String := String.ofList (List.replicate k '>')

/-- The tokens of closing angles: two angles are one. -/
def angleTokens : Nat → List Token
  | 0 => []
  | 1 => [.symbol ">"]
  | k + 2 => .symbol ">>" :: angleTokens k

theorem angleTokens_add {k : Nat} (hk : k % 2 = 0) (n : Nat) :
    angleTokens (k + n) = angleTokens k ++ angleTokens n := by
  induction k using angleTokens.induct with
  | case1 => simp [angleTokens]
  | case2 => simp at hk
  | case3 k ih =>
      have hshift : k + 2 + n = k + n + 2 := by omega
      rw [hshift, angleTokens, angleTokens, ih (by omega), List.cons_append]

/-- No operator is made of an opening angle and what is written after it. -/
def AfterAngle (d : Dialect) (next : Option Char) : Prop :=
  ∀ c ∈ next, c ∉ ['<', '=', '>', '@'] ∧ (d.hasFreeOperators → isOperatorChar c = false)

/-- What is written after a type that is not inside another one. -/
def EndsTypeText (next : Option Char) : Prop :=
  next ∈ [some ' ', some ',', some '\n', some '[']

theorem EndsTypeText.endsIdentText {c : Option Char} (h : EndsTypeText c) : EndsIdentText c := by
  simp only [EndsTypeText, EndsIdentText, List.mem_cons, List.not_mem_nil, or_false] at h ⊢
  grind

/-- Before such a character the angle is the longest operator. -/
theorem operator?_openingAngle {more : List Char} (h : AfterAngle d more.head?) :
    operator? d ('<' :: more) = some (.symbol ['<']) := by
  cases more with
  | nil => cases d <;> rfl
  | cons c more =>
      obtain ⟨hc, hfree⟩ := h c rfl
      have hne : ∀ m ∈ ['<', '=', '>', '@'], (m == c) = false := fun m hm =>
        beq_false_of_ne fun heq => hc (heq ▸ hm)
      simp only [List.forall_mem_cons, List.not_mem_nil] at hne
      obtain ⟨hopen, hequals, hclose, hat, _⟩ := hne
      have hknown : operators.find? (·.toList.isPrefixOf ('<' :: c :: more)) = some "<" := by
        simp [operators, List.find?, List.isPrefixOf, hopen, hequals, hclose, hat]
      have hnone : d.hasFreeOperators → (c :: more).takeWhile isOperatorChar = [] := fun hd => by
        rw [List.takeWhile_cons_of_neg (by simp [hfree hd])]
      have hall : (if d.hasWholeDivision then "//" :: operators else operators).find?
          (·.toList.isPrefixOf ('<' :: c :: more)) = some "<" := by
        split <;> exact hknown
      unfold operator?
      simp only [hall, Option.map_some]
      by_cases hd : d.hasFreeOperators
      · have hmore : (('<' :: c :: more).drop "<".length).takeWhile isOperatorChar = [] := hnone hd
        rw [hmore]
        simp
      · simp [hd]

theorem spells_openingAngle : Spells d "<" [.symbol "<"] (AfterAngle d) := by
  have hpiece : ∀ more : List Char, AfterAngle d more.head? →
      piece d '<' more = .ok (.symbol ['<']) := by
    intro more hmore
    have hplain : piece d '<' more = plainPiece d '<' more := by cases d <;> rfl
    have hunmarked : markedWord? d ('<' :: more) = none := rfl
    rw [hplain, plainPiece, hunmarked, operator?_openingAngle hmore]
    rfl
  exact spells_char (s := "<") (t := some (.symbol "<")) rfl hpiece

/-- Angles that close are cut two by two.  Where operators are free, more than two are one. -/
theorem spells_angles (k : Nat) (hk : d.hasFreeOperators → k ≤ 2) :
    Spells d (angles k) (angleTokens k) EndsTypeText := by
  have hlast : ∀ more : List Char, EndsTypeText more.head? →
      piece d '>' more = .ok (.symbol ['>']) ∧
        piece d '>' ('>' :: more) = .ok (.symbol ['>', '>']) := by
    intro more hmore
    simp only [EndsTypeText, List.mem_cons, List.not_mem_nil, or_false,
      List.head?_eq_some_iff] at hmore
    rcases hmore with ⟨more, rfl⟩ | ⟨more, rfl⟩ | ⟨more, rfl⟩ | ⟨more, rfl⟩ <;>
      cases d <;> exact ⟨rfl, rfl⟩
  induction k using angleTokens.induct with
  | case1 => exact .nil
  | case2 =>
      exact spells_char (s := ">") (t := some (.symbol ">")) rfl fun more hmore =>
        (hlast more hmore).1
  | case3 k ih =>
      intro more others hmore hothers
      have hpiece : piece d '>' ('>' :: ((angles k).toList ++ more))
          = .ok (.symbol ['>', '>']) := by
        by_cases hd : d.hasFreeOperators
        · obtain rfl : k = 0 := by have := hk hd; omega
          exact (hlast more hmore).2
        · cases d <;> first | rfl | exact absurd rfl hd
      have htext : (angles (k + 2)).toList = '>' :: '>' :: (angles k).toList := by
        simp [angles, List.replicate_succ]
      rw [htext]
      exact Cut.cons hpiece (ih (fun hd => by have := hk hd; omega) more others hmore hothers)

/-- A text with a token is not empty. -/
theorem Spells.ne_empty {s : String} {t : Token} {tokens : List Token}
    (h : Spells d s (t :: tokens) EndsIdentText) : s ≠ "" := by
  rintro rfl
  have hblank : Cut d [' '] [] := Cut.cons (p := .skip 1) rfl .nil
  have hcut : Cut d [' '] (t :: tokens) := by
    simpa using h [' '] [] (by simp [EndsIdentText]) hblank
  generalize hfound : t :: tokens = found at hcut
  cases hcut with
  | cons hfirst hothers =>
      cases hfirst
      cases hothers
      cases hfound

/-! ### Brackets -/

namespace DataType

/-- Brackets are marks in the dialect, and the size between them is read if there is one. -/
def PlainSize (d : Dialect) (size : Option Nat) : Prop :=
  d ≠ .sqlite ∧ ∀ n ∈ size, n < 2 ^ 64 ∧ (d = .generic ∨ d = .postgresql)

/-- The brackets after a type, with the size between them if it is written. -/
def bracketTokens (size : Option Nat) : List Token :=
  .symbol "[" :: (size.toList.map numberToken ++ [.symbol "]"])

/-- The type with these brackets after it. -/
def bracketed (t : DataType) (sizes : List (Option Nat)) : DataType := sizes.foldl array t

theorem bracketed_cons (t : DataType) (size : Option Nat) (sizes : List (Option Nat)) :
    bracketed t (size :: sizes) = bracketed (.array t size) sizes := rfl

theorem spells_brackets {size : Option Nat} (h : PlainSize d size) :
    Spells d ("[" ++ ((size.map toString).getD "" ++ "]")) (bracketTokens size) next := by
  have hopen : Spells d "[" [.symbol "["] fun _ => True := spells_bracket h.1
  have hclose : Spells d "]" [.symbol "]"] next := spells_mark (by simp)
  have hsize : Spells d ((size.map toString).getD "") (size.toList.map numberToken)
      (· = some ']') := by
    cases size with
    | none => exact .nil
    | some n => exact (spells_nat n).mono fun c hc => hc ▸ ⟨endsWord_of_closer (by decide), by simp⟩
  exact hopen.append (hsize.append hclose (by simp)) (by simp)

end DataType

/-- What may come next after a type with its brackets. -/
def EndsWholeType (next : Option Token) : Prop :=
  next ∈ [some (.symbol ","), some (.symbol ")"), some (.symbol ">"), some (.symbol ">>"),
    some (keywordToken "PRIMARY")]

/-- What follows a type without brackets is a bracket, or what follows the whole type. -/
theorem endsType_of_brackets {sizes : List (Option Nat)} {next : Option Token}
    (h : EndsWholeType next) :
    EndsType ((sizes.flatMap DataType.bracketTokens).head?.or next) := by
  cases sizes with
  | nil =>
      simp only [EndsWholeType, List.mem_cons, List.not_mem_nil, or_false] at h
      rcases h with rfl | rfl | rfl | rfl | rfl <;> simp [EndsType]
  | cons size sizes => simp [DataType.bracketTokens, EndsType]

namespace Parser

variable {g : Grammar}

theorem reads_attempt {α : Type} {p : Parser α} {tokens : List Token} {a : α}
    {next : Option Token → Prop} (hp : Reads p tokens a next) :
    Reads (attempt p) tokens (some a) next := by
  intro found rest hfound hrest
  rw [attempt, hp found rest hfound hrest]

/-- Where no number comes, an attempt to read one takes nothing. -/
theorem reads_attempt_natural_none :
    Reads (attempt (natural 64)) [] none (· = some (.symbol "]")) := by
  refine .of_next fun rest hrest => ?_
  cases rest with
  | nil => cases hrest
  | cons l rest =>
      obtain ⟨token, place⟩ := l
      obtain rfl : token = .symbol "]" := by simpa using hrest
      rfl

theorem reads_brackets {base : DataType} {sizes : List (Option Nat)}
    (hsizes : ∀ size ∈ sizes, DataType.PlainSize g.dialect size) :
    Reads (brackets g base) (sizes.flatMap DataType.bracketTokens)
      (DataType.bracketed base sizes) EndsWholeType := by
  rw [← List.append_nil (sizes.flatMap _)]
  refine Reads.loop (fun t size hsize => (?_ : Reads _ _ _ fun _ => True)) (fun t => ?_)
    (by simp [DataType.bracketTokens]) (fun _ _ => trivial) (fun _ _ => trivial) base
  · have hclose : Reads (do symbol "]"; return some (DataType.array t size)) [.symbol "]"]
        (some (DataType.array t size)) fun _ => True :=
      (reads_symbol "]").bind (.pure _) (by simp) rfl
    refine (reads_symbol? "[").bind ?_ (by simp) rfl
    obtain ⟨_, hsize⟩ := hsizes size hsize
    cases size with
    | none =>
        by_cases hsized : g.isOneOf [.generic, .postgresql]
        · simp only [hsized, if_true]
          exact reads_attempt_natural_none.bind hclose (by simp) rfl
        · simp only [hsized, if_true]
          exact hclose
    | some n =>
        obtain ⟨hn, hd⟩ := hsize n rfl
        have hsized : g.isOneOf [.generic, .postgresql] := by
          rcases hd with hd | hd <;> simp [Grammar.isOneOf, hd]
        simp only [hsized, if_true]
        exact (reads_attempt (reads_natural hn)).bind hclose (fun _ _ => trivial) rfl
  · refine ((reads_symbol?_not "[").bind_nil (.pure none)).mono ?_
    rintro next hnext rfl
    simp [EndsWholeType, keywordToken] at hnext

/-- A type is read without its brackets first. -/
theorem typeTaking_cons (g : Grammar) (l : Lexeme) (left : List Lexeme) :
    typeTaking g (l :: left) = do
      let (type, taken) ← simpleType g (typeTaking g left)
      return (← brackets g type, taken) := by
  cases left <;> rfl

/-- A type is read with the brackets that come after the rest of it. -/
theorem reads_typeTaking {left : List Lexeme} {tokens : List Token} {t : DataType} {taken : Bool}
    {middle : Option Token → Prop} {sizes : List (Option Nat)}
    (ht : Reads (simpleType g (typeTaking g left)) tokens (t, taken) middle)
    (hsizes : ∀ size ∈ sizes, DataType.PlainSize g.dialect size)
    (hmiddle : ∀ next, EndsWholeType next →
      middle ((sizes.flatMap DataType.bracketTokens).head?.or next)) (l : Lexeme) :
    Reads (typeTaking g (l :: left)) (tokens ++ sizes.flatMap DataType.bracketTokens)
      (DataType.bracketed t sizes, taken) EndsWholeType := by
  rw [typeTaking_cons]
  exact ht.bind ((reads_brackets hsizes).give _) hmiddle rfl

/-! ### Arrays in angles -/

variable {element : Parser (DataType × Bool)} {next : Option Token → Prop}

/-- The angle that closes an array comes next. -/
theorem reads_closeAngle : Reads (closeAngle false) [.symbol ">"] false next :=
  (reads_symbol? ">").bind (.pure _) (by simp) rfl

/-- The angle that closes an array is one token with the angle around it. -/
theorem reads_closeAngle_both : Reads (closeAngle false) [.symbol ">>"] true next := by
  refine (reads_symbol?_not ">").bind ?_ (by simp) rfl
  exact (reads_symbol? ">>").bind (.pure _) (by simp) rfl

/-- The angle that closes an array is taken already. -/
theorem reads_closeAngle_taken : Reads (closeAngle true) [] false next := .pure false

theorem reads_arrayOf {inner closing : List Token} {t : DataType} {taken outside : Bool}
    {middle : Option Token → Prop} (ht : Reads element inner (t, taken) middle)
    (hclose : Reads (closeAngle taken) closing outside next)
    (hmiddle : ∀ token, next token → middle (closing.head?.or token)) :
    Reads (simpleType g element) (keywordToken "ARRAY" :: .symbol "<" :: (inner ++ closing))
      (.arrayOf t, outside) next := by
  have hkeyword : typeForm? (.bare "ARRAY") = none ∧
      spelledTypes.lookup (Word.bare "ARRAY").capitals = none ∧
      specialTypeWords.find? (Word.bare "ARRAY").isKeyword = some "ARRAY" := by decide +kernel
  obtain ⟨hform, hspelled, hspecial⟩ := hkeyword
  refine reads_simpleType_of_special hform hspelled hspecial ?_
  refine (reads_symbol "<").bind ?_ (by simp) rfl
  exact ht.bind (hclose.give _) hmiddle rfl

end Parser

/-! ### All types -/

namespace DataType

/-- The angle that closes last is a token of its own, if there is one. -/
def ClosesAlone (k : Nat) : Prop := k = 0 ∨ k % 2 = 1

/-- A type that is read back in the dialect as it is written, with so many angles that close at
its end. -/
inductive Plain (d : Dialect) : Nat → DataType → Prop
  | simple {t : DataType} (h : Simple d t) : Plain d 0 t
  /-- An array in brackets. -/
  | array {k : Nat} {t : DataType} {size : Option Nat} (h : Plain d k t) (hk : ClosesAlone k)
    (hsize : PlainSize d size) : Plain d 0 (.array t size)
  /-- An array in angles.  Where operators are free, three angles that close are another one. -/
  | arrayOf {k : Nat} {t : DataType} (h : Plain d k t) (hk : d.hasFreeOperators → k ≤ 1)
    (hfirst : AfterAngle d t.render.toList.head?) : Plain d (k + 1) (.arrayOf t)

theorem Plain.le_two {k : Nat} {t : DataType} (h : Plain d k t) (hd : d.hasFreeOperators) :
    k ≤ 2 := by
  cases h with
  | arrayOf _ hk _ => have := hk hd; omega
  | _ => omega

/-- A type that is written as a word, other tokens and so many angles, and read from them.  If
its angles are odd in number it can take one more, which belongs outside. -/
structure ReadsInside (d : Dialect) (t : DataType) (k : Nat) (body : String) (w : Word)
    (others : List Token) : Prop where
  render_eq : t.render = body ++ angles k
  spells : Spells d body (.word w :: others) EndsIdentText
  /-- The word does not leave a column without a type. -/
  typed : d = .sqlite → w.capitals ∉ untypedStops
  reads : ∀ g left sizes, g.dialect = d → others.length < left.length →
    (∀ size ∈ sizes, PlainSize d size) → (sizes = [] ∨ ClosesAlone k) →
    Reads (typeTaking g left)
      (.word w :: (others ++ (angleTokens k ++ sizes.flatMap bracketTokens)))
      (bracketed t sizes, false) EndsWholeType
  readsTaking : ∀ g left, g.dialect = d → others.length < left.length → k % 2 = 1 →
    Reads (typeTaking g left) (.word w :: (others ++ angleTokens (k + 1))) (t, true)
      EndsWholeType

variable {k : Nat} {t : DataType} {body : String} {w : Word} {others : List Token}

theorem ReadsBack.readsInside (h : ReadsBack d t w others) :
    ReadsInside d t 0 t.render w others where
  render_eq := by simp [angles]
  spells := h.spells
  typed := h.typed
  reads := by
    rintro g left sizes rfl hleft hsizes _
    obtain ⟨l, left, rfl⟩ := List.exists_cons_of_length_pos (by omega : 0 < left.length)
    exact reads_typeTaking (h.reads g rfl _) hsizes (fun _ => endsType_of_brackets) l
  readsTaking := by simp

/-- Brackets are written after all angles. -/
theorem ReadsInside.array {size : Option Nat} (h : ReadsInside d t k body w others)
    (hspells : Spells d t.render (.word w :: (others ++ angleTokens k)) EndsTypeText)
    (hk : ClosesAlone k) (hsize : PlainSize d size) :
    ReadsInside d (.array t size) 0 (DataType.array t size).render w
      (others ++ (angleTokens k ++ bracketTokens size)) where
  render_eq := by simp [angles]
  spells := by
    rw [render, String.append_assoc, String.append_assoc, ← List.append_assoc]
    exact hspells.append (spells_brackets hsize) fun _ _ => by simp [EndsTypeText]
  typed := h.typed
  reads := by
    rintro g left sizes rfl hleft hsizes _
    have hall : ∀ s ∈ size :: sizes, PlainSize g.dialect s :=
      List.forall_mem_cons.mpr ⟨hsize, hsizes⟩
    have hreads := h.reads g left (size :: sizes) rfl (by simp at hleft; omega) hall (.inr hk)
    rw [← bracketed_cons]
    simpa [angleTokens] using hreads
  readsTaking := by simp

/-- An array in angles takes the angle that closes it, or leaves it to the one inside. -/
theorem ReadsInside.arrayOf (h : ReadsInside d t k body w others)
    (hfirst : AfterAngle d t.render.toList.head?) :
    ReadsInside d (.arrayOf t) (k + 1) ("ARRAY" ++ ("<" ++ body)) (.bare "ARRAY")
      (.symbol "<" :: .word w :: others) where
  render_eq := by
    simp [render, h.render_eq, angles, ← String.toList_inj, List.replicate_succ']
  spells := by
    have hbody : body.toList.head?.isSome := by simpa using h.spells.ne_empty
    rw [h.render_eq, String.toList_append, List.head?_append, Option.or_of_isSome hbody] at hfirst
    have hopen : Spells d ("<" ++ body) (.symbol "<" :: .word w :: others) EndsIdentText :=
      spells_openingAngle.append h.spells fun c _ => by rwa [Option.or_of_isSome hbody]
    exact Spells.append (spells_fixedWord (by decide)) hopen fun c _ => by
      simpa using endsWord_of_closer (m := '<') (by decide)
  typed := fun _ => by decide +kernel
  reads := by
    rintro g left sizes rfl hleft hsizes hk
    obtain ⟨l, left, rfl⟩ := List.exists_cons_of_length_pos (by omega : 0 < left.length)
    have hleft : others.length < left.length := by simp at hleft; omega
    rcases Nat.mod_two_eq_zero_or_one k with heven | hodd
    · have hinner := h.reads g left [] rfl hleft (by simp) (.inl rfl)
      have hbase : Reads (simpleType g (typeTaking g left)) _ (.arrayOf t, false) EndsType :=
        reads_arrayOf hinner reads_closeAngle (by simp [EndsWholeType])
      have hreads := reads_typeTaking hbase hsizes (fun _ => endsType_of_brackets) l
      simpa [angleTokens_add heven, angleTokens, bracketed, keywordToken] using hreads
    · obtain rfl : sizes = [] := by
        rcases hk with hk | hk
        · exact hk
        · simp [ClosesAlone] at hk; omega
      have hinner := h.readsTaking g left rfl hleft hodd
      have hbase : Reads (simpleType g (typeTaking g left)) _ (.arrayOf t, false) EndsWholeType :=
        reads_arrayOf hinner reads_closeAngle_taken (by simp)
      have hreads := reads_typeTaking hbase hsizes (by simp) l
      simpa [keywordToken] using hreads
  readsTaking := by
    rintro g left rfl hleft hk
    obtain ⟨l, left, rfl⟩ := List.exists_cons_of_length_pos (by omega : 0 < left.length)
    have heven : k % 2 = 0 := by omega
    have hinner := h.reads g left [] rfl (by simp at hleft; omega) (by simp) (.inl rfl)
    have hbase : Reads (simpleType g (typeTaking g left)) _ (.arrayOf t, true) EndsWholeType :=
      reads_arrayOf hinner reads_closeAngle_both (by simp [EndsWholeType])
    have hreads : Reads (typeTaking g (l :: left)) (_ ++ [].flatMap bracketTokens) _ _ :=
      reads_typeTaking hbase (by simp) (by simp) l
    have hangles : angleTokens (k + 1 + 1) = angleTokens k ++ [.symbol ">>"] :=
      angleTokens_add heven 2
    rw [hangles]
    simpa [bracketed, keywordToken] using hreads

/-- The rest of a type and its angles are its text. -/
theorem ReadsInside.spells_render (h : ReadsInside d t k body w others)
    (hk : d.hasFreeOperators → k ≤ 2) :
    Spells d t.render (.word w :: (others ++ angleTokens k)) EndsTypeText := by
  rw [h.render_eq]
  refine h.spells.append (spells_angles k hk) fun c hc => ?_
  cases k with
  | zero => exact hc.endsIdentText
  | succ k => simp [angles, List.replicate_succ, EndsIdentText]

theorem Plain.readsInside (h : Plain d k t) :
    ∃ body w others, ReadsInside d t k body w others := by
  induction h with
  | simple h =>
      obtain ⟨w, others, hback⟩ := h.readsBack
      exact ⟨_, w, others, hback.readsInside⟩
  | array h hk hsize ih =>
      obtain ⟨body, w, others, hinside⟩ := ih
      exact ⟨_, w, _, hinside.array (hinside.spells_render h.le_two) hk hsize⟩
  | arrayOf h hk hfirst ih =>
      obtain ⟨body, w, others, hinside⟩ := ih
      exact ⟨_, _, _, hinside.arrayOf hfirst⟩

/-- A plain type is written as a word and other tokens, which are read as the type. -/
theorem Plain.readsBack (h : Plain d k t) :
    ∃ w others, Spells d t.render (.word w :: others) EndsTypeText ∧
      (d = .sqlite → w.capitals ∉ untypedStops) ∧
      ∀ g : Grammar, g.dialect = d → Reads (dataType g) (.word w :: others) t EndsWholeType := by
  obtain ⟨body, w, others, hinside⟩ := h.readsInside
  refine ⟨w, others ++ angleTokens k, hinside.spells_render h.le_two, hinside.typed, ?_⟩
  rintro g hg found rest hfound hrest
  have hleft : others.length < (found ++ rest).length := by
    have hlength := congrArg List.length hfound
    simp at hlength
    simp
    omega
  have htaking := hinside.reads g (found ++ rest) [] hg hleft (by simp) (.inl rfl)
  rw [List.flatMap_nil, List.append_nil] at htaking
  rw [dataType, bind_of_ok get_apply, closedType, bind_of_ok (htaking found rest hfound hrest)]
  rfl

end DataType

end TableGraph.Sql
