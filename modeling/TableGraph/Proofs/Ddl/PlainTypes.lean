/-
Types that survive being written and read.

The words of a type, its numbers and its values are written as tokens that stand for
themselves, and what is written after them ends the last one.  So a type is cut into the
tokens that are read as this type, and the only types left out are those whose names need
quotes that they do not have, and those that are made of other types or of fields.
-/
import TableGraph.Proofs.Ddl.Cutting
import TableGraph.Proofs.Ddl.Types

namespace TableGraph.Sql

open TableGraph.Sql.Parser

variable {d : Dialect} {next : Option Char → Prop}

/-! ### Numbers and parentheses -/

/-- The marks after which a word or a number has ended. -/
def closers : List Char := [' ', '(', ')', ',', '.', '<', '>', '[', ']']

theorem endsWord_of_closer {m : Char} (h : m ∈ closers) : EndsWord d (some m) := by
  have hbetween : closers ⊆ betweenWords := by simp [closers, betweenWords]
  have hquote : ∀ m ∈ closers, m ∉ ['\'', '"', '&'] := by simp [closers]
  exact endsWord_some (hbetween h) (hquote m h)

/-- A text that begins with a closing mark ends the word before it, and an empty one leaves
the end to what follows. -/
theorem EndsWord.or {c first : Option Char} (h : EndsWord d c) (hfirst : ∀ m ∈ first, m ∈ closers) :
    EndsWord d (first.or c) := by
  cases first with
  | none => exact h
  | some m => exact endsWord_of_closer (hfirst m rfl)

theorem spells_nat (n : Nat) : Spells d (toString n) [numberToken n]
    fun next => EndsWord d next ∧ next ≠ some '.' := by
  refine spells_number Nat.repr_ne_empty ?_
  rw [Nat.toString_eq_repr, Nat.toList_repr, List.all_eq_true]
  exact fun c hc => Nat.isDigit_of_mem_toDigits (by omega) (by omega) hc

theorem Spells.parenthesized {s : String} {tokens : List Token}
    (hs : Spells d s tokens (· = some ')')) :
    Spells d ("(" ++ s ++ ")") (inParentheses tokens) next := by
  have hopen : Spells d "(" [.symbol "("] fun _ => True := spells_mark (by simp)
  have hclose : Spells d ")" [.symbol ")"] next := spells_mark (by simp)
  exact (hopen.append hs (by simp)).append hclose (by simp)

/-- A number before what may follow it in parentheses. -/
theorem spells_natThen {n : Nat} {s : String} {tokens : List Token}
    (hs : Spells d s tokens (· = some ')')) (hfirst : ∀ m ∈ s.toList.head?, m = ' ' ∨ m = ',') :
    Spells d (toString n ++ s) (numberToken n :: tokens) (· = some ')') := by
  refine (spells_nat n).append hs fun c hc => ?_
  obtain ⟨m, hm, hnext⟩ : ∃ m ∈ [' ', ',', ')'], s.toList.head?.or c = some m := by
    cases hhead : s.toList.head? with
    | none => exact ⟨')', by simp, hc⟩
    | some m => exact ⟨m, by have := hfirst m hhead; grind, rfl⟩
  rw [hnext]
  refine ⟨endsWord_of_closer ?_, ?_⟩ <;> simp only [List.mem_cons, List.not_mem_nil, or_false] at hm
  · rcases hm with rfl | rfl | rfl <;> decide
  · rcases hm with rfl | rfl | rfl <;> decide

theorem spells_natIn (n : Nat) : Spells d (toString n) [numberToken n] (· = some ')') := by
  refine (spells_nat n).mono fun c hc => ?_
  subst hc
  exact ⟨endsWord_of_closer (by decide), by simp⟩

theorem spells_length (length : Option Nat) :
    Spells d (renderLength length) (lengthTokens length) next := by
  cases length with
  | none => exact .nil
  | some n => exact (spells_natIn n).parenthesized

/-- A blank before a text is no token. -/
theorem Spells.afterBlank {s : String} {tokens : List Token} (hs : Spells d s tokens next) :
    Spells d (" " ++ s) tokens next := by
  have hblank : Spells d " " [] fun _ => True := spells_blank
  exact hblank.append hs (by simp)

/-- Words in capitals with blanks between them. -/
theorem spells_phrase {words : List String} (hwords : ∀ w ∈ words, d.isWord w) :
    Spells d (" ".intercalate words) (words.map keywordToken) (EndsWord d) := by
  cases words with
  | nil => exact .nil
  | cons w ws =>
      obtain ⟨hw, hws⟩ := List.forall_mem_cons.mp hwords
      have hothers : ∀ x ∈ ws, Spells d (" " ++ id x) ([] ++ [keywordToken x]) (EndsWord d) :=
        fun x hx => (spells_word (hws x hx)).afterBlank
      have h := Spells.intercalate id (fun x => [keywordToken x]) (b := w) (spells_word hw) hothers
        (fun _ _ => endsWord_of_closer (m := ' ') (by decide)) (by simp)
      simpa [← List.map_eq_flatMap] using h

/-- The keywords that have a fixed place in canonical text. -/
def fixedWords : List String := [
  "CREATE", "TABLE", "PRIMARY", "KEY", "MAX", "CHARACTERS", "OCTETS", "UNSIGNED", "WITH",
  "WITHOUT", "TIME", "ZONE", "FixedString", "ENUM", "ENUM8", "ENUM16", "SET", "ARRAY"]

theorem isWord_of_mem_fixedWords : ∀ k ∈ fixedWords, d.isWord k := by
  cases d <;> decide +kernel

theorem spells_fixedWord {k : String} (h : k ∈ fixedWords) :
    Spells d k [keywordToken k] (EndsWord d) :=
  spells_word (isWord_of_mem_fixedWords k h)

theorem spells_fixedPhrase {words : List String} (h : words ⊆ fixedWords) :
    Spells d (" ".intercalate words) (words.map keywordToken) (EndsWord d) :=
  spells_phrase fun w hw => isWord_of_mem_fixedWords w (h hw)

theorem spells_lengthUnit (unit : LengthUnit) :
    Spells d unit.render unit.tokens (EndsWord d) := by
  cases unit with
  | unstated => exact .nil
  | characters => exact Spells.afterBlank (s := "CHARACTERS") (spells_fixedWord (by decide))
  | octets => exact Spells.afterBlank (s := "OCTETS") (spells_fixedWord (by decide))

theorem spells_textLength (length : Option TextLength) :
    Spells d ((length.map TextLength.render).getD "") ((length.map TextLength.tokens).getD [])
      next := by
  cases length with
  | none => exact .nil
  | some l =>
      cases l with
      | count n unit =>
          have hunit : Spells d unit.render unit.tokens (· = some ')') :=
            (spells_lengthUnit unit).mono fun c hc => hc ▸ endsWord_of_closer (by decide)
          have h := spells_natThen (n := n) hunit (by cases unit <;> simp [LengthUnit.render])
          simpa [TextLength.render, TextLength.tokens, String.append_assoc] using h.parenthesized
      | max =>
          have hword : Spells d "MAX" [keywordToken "MAX"] (· = some ')') :=
            (spells_fixedWord (by decide)).mono fun c hc => hc ▸ endsWord_of_closer (by decide)
          exact hword.parenthesized

theorem spells_precision (p : Precision) : Spells d p.render p.tokens next := by
  cases p with
  | unlimited => exact .nil
  | digits n => exact (spells_natIn n).parenthesized
  | scaled n scale =>
      have hcomma : Spells d "," [.symbol ","] fun _ => True := spells_mark (by simp)
      have h := spells_natThen (n := n) (hcomma.append (spells_natIn scale) (by simp)) (by simp)
      simpa [Precision.render, Precision.tokens, String.append_assoc] using h.parenthesized

theorem spells_zone (z : Zone) : Spells d z.render z.tokens (EndsWord d) := by
  cases z with
  | unstated => exact .nil
  | without =>
      have htext : " WITHOUT TIME ZONE" = " " ++ " ".intercalate ["WITHOUT", "TIME", "ZONE"] := by
        decide +kernel
      rw [Zone.render, htext]
      exact (spells_fixedPhrase (by simp [fixedWords])).afterBlank
  | withZone =>
      have htext : " WITH TIME ZONE" = " " ++ " ".intercalate ["WITH", "TIME", "ZONE"] := by
        decide +kernel
      rw [Zone.render, htext]
      exact (spells_fixedPhrase (by simp [fixedWords])).afterBlank

/-! ### Types by their words -/

namespace DataType

/-- What is written after the keyword of a type. -/
def suffixText : DataType → String
  | sized _ length => renderLength length
  | unsigned _ length => renderLength length ++ " UNSIGNED"
  | text _ length => (length.map TextLength.render).getD ""
  | exact _ precision => precision.render
  | time _ precision zone => renderLength precision ++ zone.render
  | _ => ""

theorem Formed.render_eq {keyword : String} {form : TypeForm} {t : DataType}
    (h : t.Formed keyword form) : t.render = keyword ++ t.suffixText := by
  cases h <;> simp [render, suffixText, renderLength, String.append_assoc]

theorem spells_suffix (t : DataType) : Spells d t.suffixText t.suffixTokens (EndsWord d) := by
  have hlength : ∀ length, Spells d (renderLength length) (lengthTokens length) fun _ => True :=
    spells_length
  cases t with
  | sized k length => exact spells_length length
  | unsigned k length =>
      have hword : Spells d (" " ++ "UNSIGNED") [keywordToken "UNSIGNED"] (EndsWord d) :=
        (spells_fixedWord (by decide)).afterBlank
      exact (hlength length).append hword (by simp)
  | text k length => exact spells_textLength length
  | exact k p => exact spells_precision p
  | time k length zone => exact (hlength length).append (spells_zone zone) (by simp)
  | _ => exact .nil

/-- What is written after a keyword ends it. -/
theorem suffixText_head (t : DataType) : ∀ m ∈ t.suffixText.toList.head?, m ∈ closers := by
  cases t with
  | sized k length => cases length <;> simp [suffixText, renderLength, closers]
  | unsigned k length => cases length <;> simp [suffixText, renderLength, closers]
  | text k length =>
      rcases length with _ | ⟨n, unit⟩ | _ <;> simp [suffixText, TextLength.render, closers]
  | exact k p => cases p <;> simp [suffixText, Precision.render, closers]
  | time k length zone =>
      cases length <;> cases zone <;> simp [suffixText, renderLength, Zone.render, closers]
  | _ => simp [suffixText]

end DataType

/-! ### Values, names and arguments -/

/-- The text is one token in quotes as it is written. -/
def PlainText (d : Dialect) (s : String) : Prop :=
  QuotesApart '\'' s.toList ∧ (d.hasEscapes → '\\' ∉ s.toList)

/-- The text is a number in digits. -/
def IsDigits (s : String) : Prop := s ≠ "" ∧ s.toList.all Char.isDigit

/-- The value is one token as it is written, and so is its number. -/
def Member.Plain (d : Dialect) (m : Member) : Prop :=
  PlainText d m.name ∧ ∀ n ∈ m.number, IsDigits n

/-- The identifier is one token as it is written. -/
def Ident.Plain (d : Dialect) (i : Ident) : Prop :=
  match i.quote with
  | none => d.isWord i.text
  | some quote => d.opensWord quote ∧ closingQuote quote ∉ i.text.toList

/-- What is written after an item of a list in parentheses. -/
def EndsItemText (next : Option Char) : Prop := next = some ',' ∨ next = some ')'

theorem EndsItemText.endsWord {c : Option Char} (h : EndsItemText c) : EndsWord d c := by
  rcases h with rfl | rfl <;> exact endsWord_of_closer (by decide)

theorem EndsItemText.ne_point {c : Option Char} (h : EndsItemText c) : c ≠ some '.' := by
  rcases h with rfl | rfl <;> simp

/-- Items with commas and blanks between them, before the end of a parenthesis. -/
theorem spells_items {β : Type} (textOf : β → String) (tokensOf : β → List Token) {items : List β}
    {b : β} (h : ∀ x ∈ b :: items, Spells d (textOf x) (tokensOf x) EndsItemText) :
    Spells d (", ".intercalate ((b :: items).map textOf))
      (tokensOf b ++ items.flatMap fun x => .symbol "," :: tokensOf x) (· = some ')') := by
  obtain ⟨hb, hitems⟩ := List.forall_mem_cons.mp h
  have hcomma : Spells d "," [.symbol ","] fun _ => True := spells_mark (by simp)
  have hothers : ∀ x ∈ items,
      Spells d (", " ++ textOf x) ([.symbol ","] ++ tokensOf x) EndsItemText := fun x hx =>
    hcomma.append (hitems x hx).afterBlank (by simp)
  have hlist := Spells.intercalate textOf tokensOf hb hothers (fun _ _ => .inl rfl) (by simp)
  exact hlist.mono fun _ hc => .inr hc

theorem spells_digits {s : String} (hs : IsDigits s) :
    Spells d s [.number s false] EndsItemText :=
  (spells_number hs.1 hs.2).mono fun _ hc => ⟨hc.endsWord, hc.ne_point⟩

theorem spells_member {m : Member} (hm : m.Plain d) :
    Spells d m.render m.tokens EndsItemText := by
  obtain ⟨name, number⟩ := m
  obtain ⟨⟨hquote, hescape⟩, hnumber⟩ := hm
  have hname := spells_singleQuoted hquote hescape
  cases number with
  | none =>
      have htext : Member.render ⟨name, none⟩ = singleQuoted name := by simp [Member.render]
      rw [htext]
      exact hname.mono fun c hc => by rcases hc with rfl | rfl <;> simp
  | some n =>
      have hvalue : Spells d (" " ++ ("=" ++ (" " ++ n))) [.symbol "=", .number n false]
          EndsItemText :=
        (spells_equals.append (spells_digits (hnumber n rfl)).afterBlank (by simp)).afterBlank
      have htext : Member.render ⟨name, some n⟩
          = singleQuoted name ++ (" " ++ ("=" ++ (" " ++ n))) := by
        simp [Member.render, ← String.toList_inj]
      rw [htext]
      exact hname.append hvalue (by simp)

/-- The digits of a moment, with its zone. -/
theorem spells_preciseTime {digits : Nat} {zone : Option String}
    (hzone : ∀ z ∈ zone, PlainText d z ∧ '\'' ∉ z.toList) :
    Spells d (toString digits ++ (zone.map fun z => ", '" ++ z ++ "'").getD "")
      (numberToken digits :: zoneTokens zone) (· = some ')') := by
  cases zone with
  | none => exact spells_natThen .nil (by simp)
  | some z =>
      obtain ⟨⟨hquotes, hescape⟩, hquote⟩ := hzone z rfl
      have hcomma : Spells d "," [.symbol ","] fun _ => True := spells_mark (by simp)
      have htext := (spells_singleQuoted hquotes hescape).mono fun c (hc : c = some ')') => by
        simp [hc]
      have hwritten : ", '" ++ z ++ "'" = "," ++ (" " ++ singleQuoted z) := by
        simp [singleQuoted, quoted, markQuotes_eq_self false hquote, ← String.toList_inj]
      have hall := spells_natThen (n := digits) (hcomma.append htext.afterBlank (by simp)) (by simp)
      simpa [hwritten, zoneTokens] using hall

/-- What is written after an identifier of a name. -/
def EndsIdentText (next : Option Char) : Prop :=
  next ∈ [some ' ', some ',', some '\n', some '[', some '(', some '.', some '>']

theorem EndsIdentText.endsWord {c : Option Char} (h : EndsIdentText c) : EndsWord d c := by
  simp only [EndsIdentText, List.mem_cons, List.not_mem_nil, or_false] at h
  rcases h with rfl | rfl | rfl | rfl | rfl | rfl | rfl <;>
    exact endsWord_some (by simp [betweenWords]) (by simp)

theorem EndsIdentText.ne_closingQuote {c : Option Char} (h : EndsIdentText c) {quote : Char}
    (hopens : d.opensWord quote) : c ≠ some (closingQuote quote) := by
  rintro rfl
  rcases opensWord_cases hopens with rfl | rfl | rfl <;> simp [EndsIdentText, closingQuote] at h

theorem spells_ident {i : Ident} (hi : i.Plain d) :
    Spells d i.render [.word i.word] EndsIdentText := by
  obtain ⟨text, quote | quote⟩ := i
  · exact (spells_word hi).mono fun _ => EndsIdentText.endsWord
  · exact (spells_quotedWord hi.1 hi.2).mono fun _ hc => hc.ne_closingQuote hi.1

theorem not_isDigit_of_isWord {s : String} (hs : d.isWord s) :
    ∃ c rest, s.toList = c :: rest ∧ c.isDigit = false := by
  unfold Dialect.isWord at hs
  cases hchars : s.toList with
  | nil => rw [hchars] at hs; cases hs
  | cons c rest =>
      rw [hchars] at hs
      simp only [Bool.and_eq_true] at hs
      exact ⟨c, rest, rfl, not_isDigit_of_startsWord hs.1.1⟩

/-- No identifier begins with a digit. -/
theorem Ident.Plain.not_isDigit {i : Ident} (hi : i.Plain d) :
    ∃ c rest, i.render.toList = c :: rest ∧ c.isDigit = false := by
  obtain ⟨text, quote | quote⟩ := i
  · exact not_isDigit_of_isWord hi
  · refine ⟨_, _, toList_render_quoted hi.1 hi.2, ?_⟩
    rcases opensWord_cases hi.1 with rfl | rfl | rfl <;> rfl

theorem spells_objectName {name : ObjectName} (h : ∀ i ∈ name.parts, i.Plain d) :
    Spells d name.render (pathTokens name.parts) EndsIdentText := by
  obtain ⟨first, others, hparts⟩ : ∃ first others, name.parts = first :: others :=
    List.exists_cons_of_ne_nil (by simp [ObjectName.parts])
  rw [hparts] at h ⊢
  obtain ⟨hfirst, hothers⟩ := List.forall_mem_cons.mp h
  have hmore : ∀ i ∈ others,
      Spells d ("." ++ i.render) ([.symbol "."] ++ [.word i.word]) EndsIdentText := by
    intro i hi
    obtain ⟨c, rest, hchars, hdigit⟩ := (hothers i hi).not_isDigit
    refine spells_point.append (spells_ident (hothers i hi)) fun _ _ e he => ?_
    rw [hchars] at he
    obtain rfl : c = e := by simpa using he
    exact hdigit
  have hlist := Spells.intercalate Ident.render (fun i => [.word i.word]) (spells_ident hfirst)
    hmore (fun _ _ => by simp [EndsIdentText]) (by simp)
  rw [← hparts] at hlist
  exact hlist

/-- The argument of a type is one token as it is written. -/
def PlainArgument (d : Dialect) (s : String) : Prop := d.isWord s ∨ IsDigits s

theorem spells_argument {s : String} (hs : PlainArgument d s) :
    Spells d s [argumentToken s] EndsItemText := by
  rcases hs with hword | hdigits
  · obtain ⟨c, rest, hchars, hdigit⟩ := not_isDigit_of_isWord hword
    have htoken : argumentToken s = .word (.bare s) := by simp [argumentToken, hchars, hdigit]
    rw [htoken]
    exact (spells_word hword).mono fun _ => EndsItemText.endsWord
  · have htoken : argumentToken s = .number s false := if_pos hdigits.2
    rw [htoken]
    exact spells_digits hdigits

theorem spells_custom {name : ObjectName} {args : List String} (hname : ∀ i ∈ name.parts, i.Plain d)
    (hargs : ∀ a ∈ args, PlainArgument d a) :
    Spells d (DataType.render (.custom name args)) (pathTokens name.parts ++ argumentTokens args)
      EndsIdentText := by
  rw [DataType.render]
  cases args with
  | nil => exact (spells_objectName hname).append .nil (fun _ h => h)
  | cons a as =>
      have hlist := spells_items id (fun a => [argumentToken a]) fun x hx =>
        spells_argument (hargs x hx)
      rw [List.map_id] at hlist
      exact (spells_objectName hname).append hlist.parenthesized fun _ _ => by
        simp [EndsIdentText]

/-! ### All types -/

namespace DataType

/-- A type without brackets that is read back in the dialect as it is written. -/
inductive Simple (d : Dialect) : DataType → Prop
  /-- A type that is known by its words. -/
  | formed {form : TypeForm} {words : List String} {t : DataType}
    (hwords : (form, words) ∈ typePhrases) (h : t.Formed (" ".intercalate words) form) :
    Simple d t
  | fixedText {n : Nat} (h : n < 2 ^ 64) : Simple d (.sized "FixedString" (some n))
  /-- A moment, whose zone is written without regard to quotes in it. -/
  | preciseTime {digits : Nat} {zone : Option String} (h : digits < 2 ^ 64)
    (hzone : ∀ z ∈ zone, PlainText d z ∧ '\'' ∉ z.toList) :
    Simple d (.compound ("DateTime64(" ++ toString digits
      ++ (zone.map fun z => ", '" ++ z ++ "'").getD "" ++ ")"))
  | enumeration {keyword : String} {members : List Member}
    (hkeyword : keyword ∈ enumerationWords) (hne : members ≠ [])
    (h : ∀ m ∈ members, m.Plain d) : Simple d (.choice keyword members)
  | set {names : List String} (hne : names ≠ []) (h : ∀ n ∈ names, PlainText d n) :
    Simple d (.choice "SET" (names.map fun n => ⟨n, none⟩))
  /-- A type of the user's, whose name does not begin like a type of another kind. -/
  | custom {name : ObjectName} {args : List String} (hname : ∀ i ∈ name.parts, i.Plain d)
    (hfirst : ∀ i ∈ name.parts.head?, i.word.capitals ∉ d.typeWords)
    (hargs : ∀ a ∈ args, PlainArgument d a) : Simple d (.custom name args)

/-- The type is written as a word and other tokens, which are read as the type. -/
structure ReadsBack (d : Dialect) (t : DataType) (w : Word) (others : List Token) : Prop where
  spells : Spells d t.render (.word w :: others) EndsIdentText
  reads : ∀ g : Grammar, g.dialect = d → ∀ element,
    Reads (simpleType g element) (.word w :: others) (t, false) EndsType
  /-- The word does not leave a column without a type. -/
  typed : d = .sqlite → w.capitals ∉ untypedStops

/-- A type that is known by its words is read back. -/
theorem Formed.readsBack {form : TypeForm} {words : List String} {t : DataType}
    (hwords : (form, words) ∈ typePhrases) (h : t.Formed (" ".intercalate words) form) :
    ∃ w others, ReadsBack d t w others := by
  have hphrases : ∀ p ∈ typePhrases, p.2 ≠ [] ∧ (∀ w ∈ p.2, d.isWord w) ∧
      ∀ w ∈ p.2.head?, (Word.bare w).capitals ∉ untypedStops := by
    cases d <;> decide +kernel
  obtain ⟨hne, hword, htyped⟩ := hphrases _ hwords
  obtain ⟨w, ws, rfl⟩ := List.exists_cons_of_ne_nil hne
  refine ⟨.bare w, ws.map keywordToken ++ t.suffixTokens, ?_, ?_, fun _ => htyped w rfl⟩
  · rw [h.render_eq]
    exact ((spells_phrase hword).append (spells_suffix t) fun _ hc => hc.or t.suffixText_head).mono
      fun _ => EndsIdentText.endsWord
  · exact fun g _ element => reads_typePhrase hwords h

/-- The types that are a word and a list in parentheses, with the keyword that the word is. -/
def specialWords : List (String × String) := [
  ("FixedString", "FIXEDSTRING"), ("DateTime64", "DATETIME64"), ("ENUM", "ENUM"),
  ("ENUM8", "ENUM8"), ("ENUM16", "ENUM16"), ("SET", "SET")]

/-- A word and a list in parentheses are read back, if the list is. -/
theorem readsBack_of_special (keyword word : String) {t : DataType} {s : String}
    {tokens : List Token} (hkeyword : (keyword, word) ∈ specialWords)
    (htext : t.render = keyword ++ ("(" ++ s ++ ")")) (hs : Spells d s tokens (· = some ')'))
    (hreads : ∀ g element,
      Reads (specialType g word element) (inParentheses tokens) (t, false) EndsType) :
    ReadsBack d t (.bare keyword) (inParentheses tokens) := by
  have hkeywords : ∀ p ∈ specialWords, d.isWord p.1 ∧ typeForm? (.bare p.1) = none ∧
      spelledTypes.lookup (Word.bare p.1).capitals = none ∧
      specialTypeWords.find? (Word.bare p.1).isKeyword = some p.2 ∧
      (Word.bare p.1).capitals ∉ untypedStops := by
    cases d <;> decide +kernel
  obtain ⟨hword, hform, hlookup, hfind, htyped⟩ := hkeywords _ hkeyword
  refine ⟨?_, fun g _ element => ?_, fun _ => htyped⟩
  · rw [htext]
    exact (spells_word hword).append hs.parenthesized fun _ _ => by
      simpa using endsWord_of_closer (m := '(') (by decide)
  · exact reads_simpleType_of_special hform hlookup hfind (hreads g element)

theorem Simple.readsBack {t : DataType} (h : Simple d t) :
    ∃ w others, ReadsBack d t w others := by
  cases h with
  | formed hwords h => exact h.readsBack hwords
  | @fixedText n hn =>
      exact ⟨_, _, readsBack_of_special "FixedString" "FIXEDSTRING" (by simp [specialWords]) rfl
        (spells_natIn n) fun g element => reads_fixedText hn⟩
  | @preciseTime digits zone hdigits hzone =>
      exact ⟨_, _, readsBack_of_special "DateTime64" "DATETIME64" (by simp [specialWords])
        (by simp [render, ← String.toList_inj]) (spells_preciseTime hzone) fun g element =>
        reads_preciseTime hdigits zone⟩
  | @enumeration keyword members hkeyword hne h =>
      obtain ⟨m, ms, rfl⟩ := List.exists_cons_of_ne_nil hne
      have hspells := spells_items Member.render Member.tokens fun x hx => spells_member (h x hx)
      have htext : (choice keyword (m :: ms)).render
          = keyword ++ ("(" ++ ", ".intercalate ((m :: ms).map Member.render) ++ ")") := by
        simp [render, String.append_assoc]
      have hword : (keyword, keyword) ∈ specialWords := by
        simp only [enumerationWords, List.mem_cons, List.not_mem_nil, or_false] at hkeyword
        rcases hkeyword with rfl | rfl | rfl <;> simp [specialWords]
      exact ⟨_, _, readsBack_of_special keyword keyword hword htext hspells fun g element =>
        reads_enumeration hkeyword m ms⟩
  | @set names hne h =>
      obtain ⟨n, ns, rfl⟩ := List.exists_cons_of_ne_nil hne
      have hplain : ∀ m ∈ (n :: ns).map fun n => (⟨n, none⟩ : Member), m.Plain d := by
        intro m hm
        obtain ⟨n, hn, rfl⟩ := List.mem_map.mp hm
        exact ⟨h n hn, by simp⟩
      have hspells := spells_items Member.render Member.tokens fun x hx =>
        spells_member (hplain x hx)
      have htext : (choice "SET" ((n :: ns).map fun n => ⟨n, none⟩)).render
          = "SET" ++ ("(" ++ ", ".intercalate
              (((n :: ns).map fun n => (⟨n, none⟩ : Member)).map Member.render) ++ ")") := by
        simp [render, ← String.toList_inj]
      exact ⟨_, _, readsBack_of_special "SET" "SET" (by simp [specialWords]) htext hspells
        fun g element => reads_set n ns⟩
  | @custom name args hname hfirst hargs =>
      obtain ⟨i, is, hparts⟩ : ∃ i is, name.parts = i :: is :=
        List.exists_cons_of_ne_nil (by simp [ObjectName.parts])
      have hspells := spells_custom hname hargs
      have hwords : i.word.capitals ∉ d.typeWords := hfirst i (by rw [hparts]; rfl)
      have hreads := reads_customType name args
      rw [hparts] at hspells hreads
      refine ⟨_, _, hspells, fun g hg element => ?_, fun hd hmem => hwords ?_⟩
      · exact reads_simpleType_of_custom (by rwa [hg]) hreads
      · subst hd
        simp [Dialect.typeWords, hmem]

end DataType

end TableGraph.Sql
