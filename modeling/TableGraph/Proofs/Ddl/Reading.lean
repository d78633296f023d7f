/-
What a parser takes.

A parser looks at the token after those it takes, to know that it is done: after the type of
a column it looks for a bracket, after a column for a comma.  So what a parser reads from
some tokens is said together with what may come next.  Of that only the first token counts,
since no parser of canonical text looks further once the first token is not for it.
-/
import Mathlib.Algebra.Order.BigOperators.Group.List
import TableGraph.Sql.Parser.Basic

namespace TableGraph.Sql.Parser

/-- The token that comes next. -/
def nextOf (rest : List Lexeme) : Option Token := rest.head?.map (·.token)

/-- The parser takes exactly these tokens and gives this value, if what comes next is as
asked for. -/
def Reads {α : Type} (p : Parser α) (tokens : List Token) (a : α)
    (next : Option Token → Prop) : Prop :=
  ∀ found rest, found.map Lexeme.token = tokens → next (nextOf rest) →
    p (found ++ rest) = .ok a rest

/-- What comes next ends an item of a list in parentheses. -/
def EndsItem (next : Option Token) : Prop :=
  next = some (.symbol ",") ∨ next = some (.symbol ")")

/-- A keyword as a token. -/
def keywordToken (k : String) : Token := .word (.bare k)

/-- Tokens between parentheses. -/
def inParentheses (tokens : List Token) : List Token := .symbol "(" :: (tokens ++ [.symbol ")"])

/-- The keywords of canonical text are in capitals. -/
@[simp] theorem capitals_keywords :
    Text.capitals "CREATE" = "CREATE" ∧
    Text.capitals "TABLE" = "TABLE" ∧
    Text.capitals "PRIMARY" = "PRIMARY" ∧
    Text.capitals "KEY" = "KEY" ∧
    Text.capitals "MAX" = "MAX" ∧
    Text.capitals "CHARACTERS" = "CHARACTERS" ∧
    Text.capitals "OCTETS" = "OCTETS" ∧
    Text.capitals "UNSIGNED" = "UNSIGNED" ∧
    Text.capitals "WITH" = "WITH" ∧
    Text.capitals "WITHOUT" = "WITHOUT" ∧
    Text.capitals "TIME" = "TIME" ∧
    Text.capitals "ZONE" = "ZONE" ∧
    Text.capitals "PRECISION" = "PRECISION" ∧
    Text.capitals "VARYING" = "VARYING" ∧
    Text.capitals "LARGE" = "LARGE" ∧
    Text.capitals "OBJECT" = "OBJECT" := by
  decide +kernel

/-- A keyword in capitals, as a parser looks at it. -/
theorem keywordToken_eq {k : String} (h : Text.capitals k = k) :
    keywordToken k = .word ⟨k, none, k⟩ := by
  rw [keywordToken, Word.bare, h]

@[simp] theorem isKeyword_symbol (s k : String) : (Token.symbol s).isKeyword k = false := rfl

@[simp] theorem isKeyword_number (digits k : String) (long : Bool) :
    (Token.number digits long).isKeyword k = false := rfl

@[simp] theorem isKeyword_keywordToken (k k' : String) :
    (keywordToken k).isKeyword k' = (Text.capitals k == k') := rfl

section Steps

variable {α β σ : Type} {rest : List Lexeme}

@[simp] theorem nextOf_cons (t : Token) (place : Location) :
    nextOf (⟨t, place⟩ :: rest) = some t := rfl

theorem nextOf_append (found : List Lexeme) :
    nextOf (found ++ rest) = (found.map Lexeme.token).head?.or (nextOf rest) := by
  cases found <;> rfl

theorem nextOf_eq_some_iff {t : Token} :
    nextOf rest = some t ↔ ∃ place others, rest = ⟨t, place⟩ :: others := by
  constructor
  · intro h
    cases rest with
    | nil => cases h
    | cons l rest =>
        obtain ⟨t', place⟩ := l
        obtain rfl : t' = t := by simpa using h
        exact ⟨place, rest, rfl⟩
  · rintro ⟨place, others, rfl⟩
    rfl

theorem map_token_eq_cons_iff {found : List Lexeme} {t : Token} {tokens : List Token} :
    found.map Lexeme.token = t :: tokens ↔
      ∃ place others, found = ⟨t, place⟩ :: others ∧ others.map Lexeme.token = tokens := by
  constructor
  · intro h
    obtain ⟨⟨t, place⟩, others, rfl, rfl, rfl⟩ := List.map_eq_cons_iff.mp h
    exact ⟨place, others, rfl, rfl⟩
  · rintro ⟨place, others, rfl, rfl⟩
    rfl

/-! ### One step -/

@[simp] theorem bind_apply (p : Parser α) (f : α → Parser β) :
    (p >>= f) rest = match p rest with
      | .ok a rest => f a rest
      | .error e rest => .error e rest := by
  show EStateM.bind p f rest = _
  unfold EStateM.bind
  cases p rest <;> rfl

theorem bind_of_ok {p : Parser α} {f : α → Parser β} {a : α} {rest' : List Lexeme}
    (h : p rest = .ok a rest') : (p >>= f) rest = f a rest' := by
  rw [bind_apply, h]

@[simp] theorem map_apply (f : α → β) (p : Parser α) :
    (f <$> p) rest = match p rest with
      | .ok a rest => .ok (f a) rest
      | .error e rest => .error e rest := by
  show EStateM.map f p rest = _
  unfold EStateM.map
  cases p rest <;> rfl

@[simp] theorem pure_apply (a : α) : (pure a : Parser α) rest = .ok a rest := rfl

theorem get_apply : (get : Parser (List Lexeme)) rest = .ok rest rest := rfl

@[simp] theorem next?_apply : next? rest = .ok (nextOf rest) rest := rfl

@[simp] theorem place?_apply : place? rest = .ok (rest.head?.map (·.location)) rest := rfl

@[simp] theorem skip_apply (l : Lexeme) : skip (l :: rest) = .ok () rest := rfl

@[simp] theorem nextIs_apply (s : String) :
    nextIs s rest = .ok (nextOf rest == some (.symbol s)) rest :=
  rfl

@[simp] theorem symbol?_self (s : String) (place : Location) :
    symbol? s (⟨.symbol s, place⟩ :: rest) = .ok true rest := by
  rw [symbol?, bind_of_ok (nextIs_apply s)]
  simp [bind_apply, skip_apply, pure_apply]

@[simp] theorem symbol?_of_ne {s : String} (h : nextOf rest ≠ some (.symbol s)) :
    symbol? s rest = .ok false rest := by
  rw [symbol?, bind_of_ok (nextIs_apply s), beq_false_of_ne h]
  rfl

@[simp] theorem symbol_self (s : String) (place : Location) :
    symbol s (⟨.symbol s, place⟩ :: rest) = .ok () rest := by
  rw [symbol, bind_of_ok (symbol?_self s place)]
  rfl

@[simp] theorem nextIsKeyword_apply (k : String) :
    nextIsKeyword k rest = .ok ((nextOf rest).any (·.isKeyword k)) rest := rfl

@[simp] theorem keyword?_self {k : String} {t : Token} {place : Location} (h : t.isKeyword k) :
    keyword? k (⟨t, place⟩ :: rest) = .ok true rest := by
  rw [keyword?, bind_of_ok (nextIsKeyword_apply k), nextOf_cons, Option.any_some, h]
  rfl

@[simp] theorem keyword?_of_next {k : String} (h : (nextOf rest).any (·.isKeyword k) = false) :
    keyword? k rest = .ok false rest := by
  rw [keyword?, bind_of_ok (nextIsKeyword_apply k), h]
  rfl

@[simp] theorem keyword_self {k : String} {t : Token} {place : Location} (h : t.isKeyword k) :
    keyword k (⟨t, place⟩ :: rest) = .ok () rest := by
  rw [keyword, bind_of_ok (keyword?_self h)]
  rfl

@[simp] theorem phrase?_of_next {k : String} (ks : List String)
    (h : (nextOf rest).any (·.isKeyword k) = false) : phrase? (k :: ks) rest = .ok false rest := by
  have hafter : afterPhrase? (k :: ks) rest = none := by
    cases rest with
    | nil => rfl
    | cons l rest =>
        have hl : l.token.isKeyword k = false := by simpa [nextOf] using h
        rw [afterPhrase?, if_neg (by simp [hl])]
  rw [phrase?, bind_of_ok get_apply, hafter]
  rfl

theorem keywordOf?_of_next {ks : List String}
    (h : ∀ k ∈ ks, (nextOf rest).any (·.isKeyword k) = false) :
    keywordOf? ks rest = .ok none rest := by
  rw [keywordOf?, bind_of_ok next?_apply]
  cases hnext : nextOf rest with
  | none => rfl
  | some t =>
      cases t with
      | word w =>
          have hnone : ks.find? w.isKeyword = none := by
            rw [List.find?_eq_none]
            intro k hk
            have hword := h k hk
            rw [hnext] at hword
            simpa [Token.isKeyword] using hword
          simp only [hnone]
          rfl
      | _ => rfl

theorem keywordOf?_word {ks : List String} {w : Word} {k : String} {place : Location}
    (h : ks.find? w.isKeyword = some k) :
    keywordOf? ks (⟨.word w, place⟩ :: rest) = .ok (some k) rest := by
  rw [keywordOf?, bind_of_ok next?_apply]
  simp only [nextOf_cons, h]
  rfl

@[simp] theorem ident_word (w : Word) (place : Location) :
    ident (⟨.word w, place⟩ :: rest) = .ok ⟨w.text, w.quote⟩ rest := rfl

/-! ### One parser after another -/

theorem Reads.pure (a : α) {next : Option Token → Prop} : Reads (Pure.pure a) [] a next := by
  intro found rest hfound _
  obtain rfl := List.map_eq_nil_iff.mp hfound
  rfl

theorem Reads.bind {p : Parser α} {f : α → Parser β} {first others tokens : List Token} {a : α}
    {b : β} {middle after : Option Token → Prop} (hp : Reads p first a middle)
    (hf : Reads (f a) others b after) (hnext : ∀ next, after next → middle (others.head?.or next))
    (htokens : tokens = first ++ others) : Reads (p >>= f) tokens b after := by
  intro found rest hfound hrest
  rw [htokens] at hfound
  obtain ⟨start, found, rfl, hstart, hfound⟩ := List.map_eq_append_iff.mp hfound
  have hmiddle : middle (nextOf (found ++ rest)) := by
    rw [nextOf_append, hfound]
    exact hnext _ hrest
  rw [List.append_assoc, bind_of_ok (hp start (found ++ rest) hstart hmiddle)]
  exact hf found rest hfound hrest

/-- Nothing more is taken after the first parser. -/
theorem Reads.bind_nil {p : Parser α} {f : α → Parser β} {tokens : List Token} {a : α} {b : β}
    {next : Option Token → Prop} (hp : Reads p tokens a next) (hf : Reads (f a) [] b next) :
    Reads (p >>= f) tokens b next :=
  hp.bind hf (fun _ h => h) (List.append_nil _).symm

/-- What is made of a value asks for nothing more. -/
theorem Reads.map {p : Parser α} {tokens : List Token} {a : α} {next : Option Token → Prop}
    (hp : Reads p tokens a next) (f : α → β) : Reads (f <$> p) tokens (f a) next := by
  intro found rest hfound hrest
  rw [map_apply, hp found rest hfound hrest]

theorem Reads.give {p : Parser α} {tokens : List Token} {a : α} {next : Option Token → Prop}
    (hp : Reads p tokens a next) (f : α → β) : Reads (do return f (← p)) tokens (f a) next := by
  intro found rest hfound hrest
  rw [bind_of_ok (hp found rest hfound hrest)]
  rfl

theorem Reads.mono {p : Parser α} {tokens : List Token} {a : α}
    {next next' : Option Token → Prop} (hp : Reads p tokens a next)
    (h : ∀ t, next' t → next t) : Reads p tokens a next' :=
  fun found rest hfound hrest => hp found rest hfound (h _ hrest)

/-- A parser of one token that asks for nothing more. -/
theorem Reads.of_token {p : Parser α} {t : Token} {a : α}
    (h : ∀ place rest, p (⟨t, place⟩ :: rest) = .ok a rest) :
    Reads p [t] a fun _ => True := by
  intro found rest hfound _
  obtain ⟨place, _, rfl, hnil⟩ := map_token_eq_cons_iff.mp hfound
  obtain rfl := List.map_eq_nil_iff.mp hnil
  exact h place rest

/-- A parser that takes nothing. -/
theorem Reads.of_next {p : Parser α} {a : α} {next : Option Token → Prop}
    (h : ∀ rest, next (nextOf rest) → p rest = .ok a rest) : Reads p [] a next := by
  intro found rest hfound hrest
  obtain rfl := List.map_eq_nil_iff.mp hfound
  exact h rest hrest

theorem reads_symbol (s : String) : Reads (symbol s) [.symbol s] () fun _ => True :=
  .of_token fun place _ => symbol_self s place

theorem reads_symbol? (s : String) : Reads (symbol? s) [.symbol s] true fun _ => True :=
  .of_token fun place _ => symbol?_self s place

theorem reads_symbol?_not (s : String) : Reads (symbol? s) [] false (· ≠ some (.symbol s)) :=
  .of_next fun _ h => symbol?_of_ne h

theorem reads_nextIs (s : String) : Reads (nextIs s) [] true (· = some (.symbol s)) :=
  .of_next fun rest h => by rw [nextIs_apply, h, beq_self_eq_true]

theorem reads_nextIs_not (s : String) : Reads (nextIs s) [] false (· ≠ some (.symbol s)) :=
  .of_next fun rest h => by rw [nextIs_apply, beq_false_of_ne h]

theorem reads_keyword? {k : String} (h : Text.capitals k = k) :
    Reads (keyword? k) [keywordToken k] true fun _ => True :=
  .of_token fun _ _ => keyword?_self (by simp [h])

theorem reads_keyword?_not (k : String) :
    Reads (keyword? k) [] false fun next => next.any (·.isKeyword k) = false :=
  .of_next fun _ h => keyword?_of_next h

theorem reads_keyword {k : String} (h : Text.capitals k = k) :
    Reads (keyword k) [keywordToken k] () fun _ => True :=
  .of_token fun _ _ => keyword_self (by simp [h])

theorem reads_keywordOf? {ks : List String} {w : Word} {k : String}
    (h : ks.find? w.isKeyword = some k) : Reads (keywordOf? ks) [.word w] (some k) fun _ => True :=
  .of_token fun _ _ => keywordOf?_word h

theorem reads_keywordOf?_not (ks : List String) :
    Reads (keywordOf? ks) [] none fun next => ∀ k ∈ ks, next.any (·.isKeyword k) = false :=
  .of_next fun _ h => keywordOf?_of_next h

theorem reads_phrase?_not (k : String) (ks : List String) :
    Reads (phrase? (k :: ks)) [] false fun next => next.any (·.isKeyword k) = false :=
  .of_next fun _ h => phrase?_of_next ks h

/-- The keywords, one after the other. -/
theorem reads_phrase (ks : List String) (h : ∀ k ∈ ks, Text.capitals k = k) :
    Reads (phrase ks) (ks.map keywordToken) () fun _ => True := by
  induction ks with
  | nil => exact .pure ()
  | cons k ks ih =>
      obtain ⟨hk, hks⟩ := List.forall_mem_cons.mp h
      exact (reads_keyword hk).bind (ih hks) (by simp) rfl

theorem reads_phrase? (ks : List String) (h : ∀ k ∈ ks, Text.capitals k = k) :
    Reads (phrase? ks) (ks.map keywordToken) true fun _ => True := by
  intro found rest hfound _
  have hafter : ∀ found : List Lexeme, found.map Lexeme.token = ks.map keywordToken →
      afterPhrase? ks (found ++ rest) = some rest := by
    clear hfound
    induction ks with
    | nil =>
        intro found hfound
        obtain rfl := List.map_eq_nil_iff.mp hfound
        rfl
    | cons k ks ih =>
        intro found hfound
        obtain ⟨hk, hks⟩ := List.forall_mem_cons.mp h
        obtain ⟨place, others, rfl, hothers⟩ := map_token_eq_cons_iff.mp hfound
        rw [List.cons_append, afterPhrase?, if_pos (by simp [hk])]
        exact ih hks others hothers
  rw [phrase?, bind_of_ok get_apply, hafter found hfound]
  rfl

theorem reads_ident (w : Word) : Reads ident [.word w] ⟨w.text, w.quote⟩ fun _ => True :=
  .of_token fun place _ => ident_word w place

/-- What stands between parentheses. -/
theorem Reads.parenthesized {p : Parser α} {tokens : List Token} {a : α}
    (hp : Reads p tokens a (· = some (.symbol ")"))) {next : Option Token → Prop} :
    Reads (Parser.parenthesized p) (inParentheses tokens) a next :=
  (reads_symbol "(").bind
    (hp.bind ((reads_symbol ")").bind (.pure a) (by simp) rfl) (by simp) rfl) (by simp) rfl

/-! ### Repetition -/

theorem iterate_of_none {step : σ → Parser (Option σ)} {s : σ} {rest' : List Lexeme}
    (h : step s rest = .ok none rest') (left : List Lexeme) :
    iterate step left s rest = .ok s rest' := by
  cases left with
  | nil => rw [iterate, bind_of_ok h]; rfl
  | cons l left => rw [iterate, bind_of_ok h]; rfl

theorem iterate_of_some {step : σ → Parser (Option σ)} {s s' : σ} {rest' : List Lexeme}
    (h : step s rest = .ok (some s') rest') (l : Lexeme) (left : List Lexeme) :
    iterate step (l :: left) s rest = iterate step left s' rest' := by
  rw [iterate, bind_of_ok h]

theorem loop_apply (step : σ → Parser (Option σ)) (s : σ) :
    loop step s rest = iterate step rest s rest := rfl

/-- A loop that finds nothing to do. -/
theorem loop_of_none {step : σ → Parser (Option σ)} {s : σ} (h : step s rest = .ok none rest) :
    loop step s rest = .ok s rest := by
  rw [loop_apply, iterate_of_none h]

/-- Rounds read items one after the other, if each of them reads one.  What ends the rounds may
be read with them. -/
theorem iterate_items {step : σ → Parser (Option σ)} {advance : σ → β → σ}
    {tokensOf : β → List Token} {items : List β} {last : List Token}
    {between after : Option Token → Prop}
    (hstep : ∀ s, ∀ b ∈ items, Reads (step s) (tokensOf b) (some (advance s b)) between)
    (hlast : ∀ s, Reads (step s) last none after)
    (hne : ∀ b ∈ items, tokensOf b ≠ [])
    (hfirst : ∀ b ∈ items, between (tokensOf b).head?)
    (hafter : ∀ next, after next → between (last.head?.or next)) (s : σ) (left : List Lexeme)
    {found : List Lexeme} (hfound : found.map Lexeme.token = items.flatMap tokensOf ++ last)
    (hrest : after (nextOf rest)) (hleft : items.length ≤ left.length) :
    iterate step left s (found ++ rest) = .ok (items.foldl advance s) rest := by
  induction items generalizing s left found with
  | nil => exact iterate_of_none (hlast s found rest (by simpa using hfound) hrest) left
  | cons b items ih =>
      obtain ⟨hb, hitems⟩ := List.forall_mem_cons.mp hfirst
      obtain ⟨_, hnes⟩ := List.forall_mem_cons.mp hne
      rw [List.flatMap_cons, List.append_assoc] at hfound
      obtain ⟨first, others, rfl, hfirst', hothers⟩ := List.map_eq_append_iff.mp hfound
      have hbetween : between (nextOf (others ++ rest)) := by
        rw [nextOf_append, hothers]
        cases items with
        | nil => exact hafter _ hrest
        | cons b' items =>
            have hb' := hnes b' List.mem_cons_self
            rw [List.flatMap_cons, List.append_assoc, List.head?_append_of_ne_nil _ hb',
              Option.or_of_isSome (by simpa using hb')]
            exact hitems b' List.mem_cons_self
      cases left with
      | nil => simp at hleft
      | cons l left =>
          rw [List.append_assoc, iterate_of_some
            (hstep s b List.mem_cons_self first (others ++ rest) hfirst' hbetween)]
          exact ih (fun s x hx => hstep s x (List.mem_cons_of_mem _ hx)) hnes hitems _ left hothers
            (by simpa using hleft)

/-- There are no more items than tokens. -/
theorem length_le_of_tokens {tokensOf : β → List Token} {items : List β} {last : List Token}
    {found : List Lexeme} (hfound : found.map Lexeme.token = items.flatMap tokensOf ++ last)
    (hne : ∀ b ∈ items, tokensOf b ≠ []) : items.length ≤ found.length := by
  have hlength : items.length ≤ (items.flatMap tokensOf).length := by
    rw [List.length_flatMap, ← List.length_map (f := fun b => (tokensOf b).length)]
    refine List.length_le_sum_of_one_le _ fun n hn => ?_
    obtain ⟨b, hb, rfl⟩ := List.mem_map.mp hn
    exact List.length_pos_of_ne_nil (hne b hb)
  have hfound' := congrArg List.length hfound
  simp only [List.length_map, List.length_append] at hfound'
  omega

/-- A loop reads its items one after the other. -/
theorem Reads.loop {step : σ → Parser (Option σ)} {advance : σ → β → σ}
    {tokensOf : β → List Token} {items : List β} {last : List Token}
    {between after : Option Token → Prop}
    (hstep : ∀ s, ∀ b ∈ items, Reads (step s) (tokensOf b) (some (advance s b)) between)
    (hlast : ∀ s, Reads (step s) last none after)
    (hne : ∀ b ∈ items, tokensOf b ≠ [])
    (hfirst : ∀ b ∈ items, between (tokensOf b).head?)
    (hafter : ∀ next, after next → between (last.head?.or next)) (s : σ) :
    Reads (Parser.loop step s) (items.flatMap tokensOf ++ last) (items.foldl advance s) after := by
  intro found rest hfound hrest
  rw [loop_apply]
  refine iterate_items hstep hlast hne hfirst hafter s _ hfound hrest ?_
  exact (length_le_of_tokens hfound hne).trans (by simp)

/-- All values are read, one after the other. -/
theorem Reads.many {p : Parser (Option α)} {value : β → α} {tokensOf : β → List Token}
    {items : List β} {last : List Token} {between after : Option Token → Prop}
    (hstep : ∀ b ∈ items, Reads p (tokensOf b) (some (value b)) between)
    (hlast : Reads p last none after) (hne : ∀ b ∈ items, tokensOf b ≠ [])
    (hfirst : ∀ b ∈ items, between (tokensOf b).head?)
    (hafter : ∀ next, after next → between (last.head?.or next)) :
    Reads (Parser.many p) (items.flatMap tokensOf ++ last) (items.map value) after := by
  have hround : ∀ found : List α, ∀ b ∈ items,
      Reads (do return (← p).map (· :: found)) (tokensOf b) (some (value b :: found)) between := by
    intro values b hb found rest hfound hrest
    rw [bind_of_ok (hstep b hb found rest hfound hrest)]
    rfl
  have hend : ∀ found : List α, Reads (do return (← p).map (· :: found)) last none after := by
    intro values found rest hfound hrest
    rw [bind_of_ok (hlast found rest hfound hrest)]
    rfl
  intro found rest hfound hrest
  have hloop := Reads.loop hround hend hne hfirst hafter [] found rest hfound hrest
  rw [Parser.many, bind_of_ok hloop, pure_apply, List.foldl_flip_cons_eq_append, List.append_nil,
    List.reverse_reverse]

/-- How many times a symbol comes is counted. -/
theorem reads_manySymbol (s : String) (n : Nat) :
    Reads (Parser.many do if ← symbol? s then return some () else return none)
      (List.replicate n (.symbol s)) (List.replicate n ()) (· ≠ some (.symbol s)) := by
  have hsome : Reads (do if ← symbol? s then return some () else return none) [.symbol s]
      (some ()) fun _ => True := (reads_symbol? s).bind (.pure _) (by simp) rfl
  have hnone : Reads (do if ← symbol? s then return some () else return none) []
      (none : Option Unit) (· ≠ some (.symbol s)) :=
    (reads_symbol?_not s).bind (.pure _) (fun _ h => h) rfl
  have hmany : Reads (Parser.many do if ← symbol? s then return some () else return none)
      ((List.replicate n ()).flatMap (fun _ => [.symbol s]) ++ []) ((List.replicate n ()).map id)
      (· ≠ some (.symbol s)) :=
    .many (fun _ _ => hsome) hnone (by simp) (by simp) (by simp)
  simpa [← List.map_eq_flatMap] using hmany

/-- What follows a first item: more of them, each after a comma. -/
theorem Reads.commaTail {p : Parser α} {value : β → α} {tokensOf : β → List Token}
    {items : List β} (h : ∀ b ∈ items, Reads p (tokensOf b) (value b) EndsItem) :
    Reads (Parser.many do if ← symbol? "," then some <$> p else return none)
      (items.flatMap fun b => .symbol "," :: tokensOf b) (items.map value)
      (· = some (.symbol ")")) := by
  have hsome : ∀ b ∈ items, Reads (do if ← symbol? "," then some <$> p else return none)
      (.symbol "," :: tokensOf b) (some (value b)) EndsItem := fun b hb =>
    (reads_symbol? ",").bind ((h b hb).map some) (by simp) rfl
  have hnone : Reads (do if ← symbol? "," then some <$> p else return none) [] none
      (· = some (.symbol ")")) :=
    (reads_symbol?_not ",").bind (.pure _) (by simp) rfl
  have hmany := Reads.many hsome hnone (by simp) (fun _ _ => .inl rfl) (fun _ h => .inr h)
  rwa [List.append_nil] at hmany

/-- Items with commas between them, before a parenthesis that closes. -/
theorem Reads.commaSeparated {p : Parser α} {value : β → α} {tokensOf : β → List Token} {b : β}
    {items : List β} (h : ∀ x ∈ b :: items, Reads p (tokensOf x) (value x) EndsItem) :
    Reads (Parser.commaSeparated p) (tokensOf b ++ items.flatMap fun b => .symbol "," :: tokensOf b)
      ((b :: items).map value) (· = some (.symbol ")")) := by
  obtain ⟨hb, hitems⟩ := List.forall_mem_cons.mp h
  refine hb.bind ((Reads.commaTail hitems).give _) (fun next hnext => ?_) rfl
  cases items with
  | nil => exact .inr hnext
  | cons b' items => exact .inl rfl

/-! ### Numbers -/

theorem addDigit_digitChar {bits value d : Nat} (hd : d < 10) (h : value * 10 + d < 2 ^ bits) :
    addDigit bits value d.digitChar = .ok (value * 10 + d) := by
  have hdigit : d.digitChar.toNat - '0'.toNat = d := Nat.toNat_digitChar_sub_48_of_lt_ten hd
  rw [addDigit, if_pos (by simpa [Nat.isDigit_digitChar] using hd), hdigit]
  exact if_pos h

/-- The digits of a number stand for it, if it has no more bits than there may be. -/
theorem foldlM_addDigit_toDigits {bits n : Nat} (h : n < 2 ^ bits) :
    (Nat.toDigits 10 n).foldlM (addDigit bits) 0 = .ok n := by
  induction n using Nat.strong_induction_on with
  | _ n ih =>
      by_cases hsmall : n < 10
      · rw [Nat.toDigits_of_lt_base hsmall]
        have hfirst : addDigit bits 0 n.digitChar = .ok (0 * 10 + n) :=
          addDigit_digitChar hsmall (by simpa using h)
        simpa using hfirst
      · have hbefore : n / 10 < n := Nat.div_lt_self (by omega) (by omega)
        have hvalue : n / 10 * 10 + n % 10 = n := by omega
        have hlast : addDigit bits (n / 10) (n % 10).digitChar = .ok (n / 10 * 10 + n % 10) :=
          addDigit_digitChar (by omega) (by omega)
        rw [hvalue] at hlast
        rw [Nat.toDigits_of_base_le (by omega) (by omega), List.foldlM_append,
          ih (n / 10) hbefore (by omega)]
        show [(n % 10).digitChar].foldlM (addDigit bits) (n / 10) = .ok n
        rw [List.foldlM_cons, hlast]
        rfl

theorem natural_number {bits n : Nat} (h : n < 2 ^ bits) (long : Bool) (place : Location) :
    natural bits (⟨.number n.repr long, place⟩ :: rest) = .ok n rest := by
  have hvalue : valueOf bits n.repr place rest = .ok n rest := by
    rw [valueOf, Nat.toList_repr, foldlM_addDigit_toDigits h]
    rfl
  exact hvalue

theorem reads_natural {bits n : Nat} (h : n < 2 ^ bits) :
    Reads (natural bits) [.number n.repr false] n fun _ => True :=
  .of_token fun place _ => natural_number h false place

end Steps

end TableGraph.Sql.Parser
