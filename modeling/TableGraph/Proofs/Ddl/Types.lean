/-
Types that are read back as they are written.

A type is read by its first word, and what may follow that word is asked for whether it is
there or not.  So a type ends where nothing that could still belong to it follows: before
the mark that ends a column, before a bracket or an angle, and before the primary key.
-/
import TableGraph.Proofs.Ddl.Reading
import TableGraph.Sql.Parser.Column

namespace TableGraph.Sql

open TableGraph.Sql.Parser

/-! ### What comes after a type -/

/-- What may come next after a type: a mark that ends it, or the primary key. -/
def EndsType (next : Option Token) : Prop :=
  next ∈ [some (.symbol ","), some (.symbol ")"), some (.symbol ">"), some (.symbol ">>"),
    some (.symbol "["), some (keywordToken "PRIMARY")]

theorem EndsType.keyword {next : Option Token} (h : EndsType next) {k : String}
    (hk : k ≠ "PRIMARY") : next.any (·.isKeyword k) = false := by
  have hprimary : (keywordToken "PRIMARY").isKeyword k = false := by
    simpa using hk.symm
  simp only [EndsType, List.mem_cons, List.not_mem_nil, or_false] at h
  rcases h with rfl | rfl | rfl | rfl | rfl | rfl <;> first | rfl | exact hprimary

theorem EndsType.symbol {next : Option Token} (h : EndsType next) {s : String}
    (hs : s ∉ [",", ")", ">", ">>", "["]) : next ≠ some (.symbol s) := by
  rintro rfl
  simp [EndsType, keywordToken] at h hs
  grind

/-! ### What follows the keyword of a type -/

/-- A number as a token. -/
def numberToken (n : Nat) : Token := .number n.repr false

/-- An optional number in parentheses. -/
def lengthTokens : Option Nat → List Token
  | none => []
  | some n => inParentheses [numberToken n]

/-- The word for a unit. -/
def LengthUnit.tokens : LengthUnit → List Token
  | unstated => []
  | characters => [keywordToken "CHARACTERS"]
  | octets => [keywordToken "OCTETS"]

/-- A length in parentheses. -/
def TextLength.tokens : TextLength → List Token
  | count n unit => inParentheses (numberToken n :: unit.tokens)
  | max => inParentheses [keywordToken "MAX"]

/-- A precision in parentheses. -/
def Precision.tokens : Precision → List Token
  | unlimited => []
  | digits n => inParentheses [numberToken n]
  | scaled n scale => inParentheses [numberToken n, .symbol ",", numberToken scale]

/-- The words for a zone. -/
def Zone.tokens : Zone → List Token
  | unstated => []
  | without => ["WITHOUT", "TIME", "ZONE"].map keywordToken
  | withZone => ["WITH", "TIME", "ZONE"].map keywordToken

/-- Numbers that can be read: no more bits than there are in a length. -/
def FitsLength (length : Option Nat) : Prop := ∀ n ∈ length, n < 2 ^ 64

/-- The length can be read. -/
def TextLength.Fits : TextLength → Prop
  | count n _ => n < 2 ^ 64
  | max => True

/-- The precision can be read. -/
def Precision.Fits : Precision → Prop
  | unlimited => True
  | digits n => n < 2 ^ 64
  | scaled n scale => n < 2 ^ 64 ∧ scale < 2 ^ 64

namespace DataType

/-- The type has this keyword, and what the form of the keyword lets follow. -/
inductive Formed (keyword : String) : TypeForm → DataType → Prop
  | bare : Formed keyword .bare (.sized keyword none)
  | sized {length : Option Nat} (h : FitsLength length) :
    Formed keyword .sized (.sized keyword length)
  | whole {length : Option Nat} (h : FitsLength length) :
    Formed keyword .whole (.sized keyword length)
  | unsigned {length : Option Nat} (h : FitsLength length) :
    Formed keyword .whole (.unsigned keyword length)
  | text {length : Option TextLength} (h : ∀ l ∈ length, l.Fits) :
    Formed keyword .text (.text keyword length)
  | exact {precision : Precision} (h : precision.Fits) :
    Formed keyword .exact (.exact keyword precision)
  | time {precision : Option Nat} {zone : Zone} (h : FitsLength precision) :
    Formed keyword .time (.time keyword precision zone)

/-- The tokens that follow the keyword of a type. -/
def suffixTokens : DataType → List Token
  | sized _ length => lengthTokens length
  | unsigned _ length => lengthTokens length ++ [keywordToken "UNSIGNED"]
  | text _ length => (length.map TextLength.tokens).getD []
  | exact _ precision => precision.tokens
  | time _ precision zone => lengthTokens precision ++ zone.tokens
  | _ => []

end DataType

namespace Parser

variable {α : Type}

/-- What is not after a parenthesis is left out. -/
theorem reads_optional (p : Parser (Option α)) :
    Reads (do if ← nextIs "(" then p else return none) [] none (· ≠ some (.symbol "(")) :=
  (reads_nextIs_not "(").bind (.pure none) (by simp) rfl

/-- What begins with a parenthesis is read. -/
theorem Reads.optional {p : Parser (Option α)} {tokens : List Token} {a : Option α}
    {next : Option Token → Prop} (hp : Reads p (inParentheses tokens) a next) :
    Reads (do if ← nextIs "(" then p else return none) (inParentheses tokens) a next :=
  (reads_nextIs "(").bind hp (by simp [inParentheses]) rfl

theorem reads_length {n : Option Nat} (hn : FitsLength n) :
    Reads length? (lengthTokens n) n (· ≠ some (.symbol "(")) := by
  unfold length?
  cases n with
  | none => exact reads_optional _
  | some n =>
      have hnumber : Reads (natural 64) [numberToken n] n (· = some (.symbol ")")) :=
        (reads_natural (hn n rfl)).mono fun _ _ => trivial
      exact Reads.optional (hnumber.parenthesized.map some)

theorem reads_lengthUnit (unit : LengthUnit) :
    Reads lengthUnit unit.tokens unit (· = some (.symbol ")")) := by
  unfold lengthUnit
  cases unit with
  | unstated => exact (reads_keywordOf?_not _).bind (.pure _) (by simp) rfl
  | characters =>
      exact (reads_keywordOf? (k := "CHARACTERS") (by decide +kernel)).bind (.pure _) (by simp) rfl
  | octets =>
      exact (reads_keywordOf? (k := "OCTETS") (by decide +kernel)).bind (.pure _) (by simp) rfl

theorem reads_textLength {n : Option TextLength} (hn : ∀ l ∈ n, l.Fits) :
    Reads textLength? ((n.map TextLength.tokens).getD []) n (· ≠ some (.symbol "(")) := by
  unfold textLength?
  cases n with
  | none => exact reads_optional _
  | some n =>
      cases n with
      | max =>
          refine Reads.optional (Reads.parenthesized ?_ |>.map some)
          exact (reads_keyword? (by simp)).bind (.pure _) (by simp) rfl
      | count n unit =>
          refine Reads.optional (Reads.parenthesized ?_ |>.map some)
          refine (reads_keyword?_not "MAX").bind ?_ (by simp [numberToken]) rfl
          exact (reads_natural (hn _ rfl)).bind ((reads_lengthUnit unit).give _) (by simp) rfl

/-- One number or two in parentheses. -/
theorem reads_precisionScale (n : Nat) (scale : Option Nat) (hn : n < 2 ^ 64)
    (hscale : FitsLength scale) :
    Reads precisionScale?
      (inParentheses (numberToken n :: scale.toList.flatMap fun s => [.symbol ",", numberToken s]))
      (some (n, scale)) fun _ => True := by
  unfold precisionScale?
  refine Reads.optional (Reads.parenthesized ?_)
  refine (reads_natural hn).bind ?_ (by simp) rfl
  cases scale with
  | none => exact (reads_symbol?_not ",").bind (.pure _) (by simp) rfl
  | some s =>
      refine (reads_symbol? ",").bind ?_ (by simp) rfl
      exact (reads_natural (hscale s rfl)).bind (.pure _) (by simp) rfl

theorem reads_precision {p : Precision} (hp : p.Fits) :
    Reads precision p.tokens p (· ≠ some (.symbol "(")) := by
  unfold precision
  cases p with
  | unlimited => exact (reads_optional _).bind (.pure _) (by simp) rfl
  | digits n =>
      have hnumbers := reads_precisionScale n none hp (by simp [FitsLength])
      exact hnumbers.bind (.pure _) (by simp) (List.append_nil _).symm
  | scaled n scale =>
      have hnumbers := reads_precisionScale n (some scale) hp.1 (by simpa [FitsLength] using hp.2)
      exact hnumbers.bind (.pure _) (by simp) (List.append_nil _).symm

theorem reads_zone (z : Zone) : Reads zone z.tokens z EndsType := by
  unfold zone
  cases z with
  | unstated =>
      refine (reads_keywordOf?_not _).bind (.pure _) ?_ rfl
      intro next hnext k hk
      exact EndsType.keyword hnext (by rintro rfl; simp at hk)
  | without =>
      refine (reads_keywordOf? (k := "WITHOUT") (by decide +kernel)).bind ?_ (by simp) rfl
      exact (reads_phrase ["TIME", "ZONE"] (by simp)).bind (.pure _) (by simp)
        (List.append_nil _).symm
  | withZone =>
      refine (reads_keywordOf? (k := "WITH") (by decide +kernel)).bind ?_ (by simp) rfl
      exact (reads_phrase ["TIME", "ZONE"] (by simp)).bind (.pure _) (by simp)
        (List.append_nil _).symm

theorem EndsType.ne_parenthesis {next : Option Token} (h : EndsType next) :
    next ≠ some (.symbol "(") :=
  h.symbol (by simp)

theorem reads_formedType {form : TypeForm} {keyword : String} {t : DataType}
    (h : t.Formed keyword form) : Reads (formedType form keyword) t.suffixTokens t EndsType := by
  cases h with
  | bare => exact .pure _
  | sized hlength =>
      exact ((reads_length hlength).mono fun _ => EndsType.ne_parenthesis).give _
  | @whole length hlength =>
      refine (reads_length hlength).bind ?_ ?_ (List.append_nil _).symm
      · refine (reads_keyword?_not "UNSIGNED").bind (.pure _) ?_ rfl
        exact fun _ hnext => hnext.keyword (by simp)
      · exact fun _ => EndsType.ne_parenthesis
  | unsigned hlength =>
      refine (reads_length hlength).bind ?_ (by simp [keywordToken]) rfl
      exact (reads_keyword? (by simp)).bind (.pure _) (by simp) rfl
  | text hlength =>
      exact ((reads_textLength hlength).mono fun _ => EndsType.ne_parenthesis).give _
  | exact hprecision =>
      exact ((reads_precision hprecision).mono fun _ => EndsType.ne_parenthesis).give _
  | @time length zone hlength =>
      refine (reads_length hlength).bind ((reads_zone zone).give _) ?_ rfl
      intro next hnext
      cases zone with
      | unstated => exact EndsType.ne_parenthesis hnext
      | _ => simp [Zone.tokens, keywordToken]

end Parser

/-! ### Types by their words -/

/-- The types whose first word may be followed by others, with what may follow all of them. -/
def specialPhrases : List (TypeForm × List String) := [
  (.bare, ["DOUBLE"]), (.bare, ["DOUBLE", "PRECISION"]),
  (.sized, ["BIT"]), (.sized, ["BIT", "VARYING"]),
  (.text, ["CHARACTER"]), (.text, ["CHARACTER", "VARYING"]),
  (.sized, ["CHARACTER", "LARGE", "OBJECT"]),
  (.text, ["CHAR"]), (.text, ["CHAR", "VARYING"]), (.sized, ["CHAR", "LARGE", "OBJECT"])]

/-- The types that are known by one word or more, with what may follow the words. -/
def typePhrases : List (TypeForm × List String) :=
  typeForms.flatMap (fun (form, ks) => ks.map fun k => (form, [k]))
    ++ spelledTypes.map (fun (_, spelling) => (.bare, [spelling])) ++ specialPhrases

namespace Parser

variable {g : Grammar} {element : Parser (DataType × Bool)}

theorem reads_simpleType_of_form {w : Word} {form : TypeForm} {keyword : String}
    {tokens : List Token} {t : DataType} (h : typeForm? w = some (form, keyword))
    (ht : Reads (formedType form keyword) tokens t EndsType) :
    Reads (simpleType g element) (.word w :: tokens) (t, false) EndsType := by
  intro found rest hfound hrest
  obtain ⟨place, others, rfl, hothers⟩ := map_token_eq_cons_iff.mp hfound
  have hrest := ht others rest hothers hrest
  unfold simpleType
  simp [h, hrest]

theorem reads_simpleType_of_spelling {w : Word} {spelling : String}
    (hform : typeForm? w = none) (h : spelledTypes.lookup w.capitals = some spelling) :
    Reads (simpleType g element) [.word w] (.sized spelling none, false) EndsType := by
  intro found rest hfound hrest
  obtain ⟨place, others, rfl, hothers⟩ := map_token_eq_cons_iff.mp hfound
  obtain rfl := List.map_eq_nil_iff.mp hothers
  unfold simpleType
  simp [hform, h]

theorem reads_simpleType_of_special {w : Word} {word : String} {tokens : List Token}
    {result : DataType × Bool} {next : Option Token → Prop} (hform : typeForm? w = none)
    (hspelled : spelledTypes.lookup w.capitals = none)
    (h : specialTypeWords.find? w.isKeyword = some word)
    (ht : Reads (specialType g word element) tokens result next) :
    Reads (simpleType g element) (.word w :: tokens) result next := by
  intro found rest hfound hrest
  obtain ⟨place, others, rfl, hothers⟩ := map_token_eq_cons_iff.mp hfound
  have hrest := ht others rest hothers hrest
  unfold simpleType
  simp [hform, hspelled, keywordOf?_word h, hrest]

/-- After the keyword of a text comes its length, or what is not a keyword of the type. -/
theorem noKeyword_of_textLength {length : Option TextLength} {next : Option Token}
    (h : EndsType next) {k : String} (hk : k ≠ "PRIMARY") :
    (((length.map TextLength.tokens).getD []).head?.or next).any (·.isKeyword k) = false := by
  cases length with
  | none => exact h.keyword hk
  | some l => cases l <;> rfl

theorem noKeyword_of_length {length : Option Nat} {next : Option Token}
    (h : EndsType next) {k : String} (hk : k ≠ "PRIMARY") :
    ((lengthTokens length).head?.or next).any (·.isKeyword k) = false := by
  cases length with
  | none => exact h.keyword hk
  | some n => rfl

/-- The words that may follow `CHAR` and `CHARACTER`. -/
theorem reads_characterType {k : String} {form : TypeForm} {words : List String} {t : DataType}
    (h : (form, words) ∈ [(.text, []), (.text, ["VARYING"]), (.sized, ["LARGE", "OBJECT"])])
    (ht : t.Formed (" ".intercalate (k :: words)) form) :
    Reads (characterType k) (words.map keywordToken ++ t.suffixTokens) t EndsType := by
  unfold characterType
  simp only [List.mem_cons, Prod.mk.injEq, List.not_mem_nil, or_false] at h
  rcases h with ⟨rfl, rfl⟩ | ⟨rfl, rfl⟩ | ⟨rfl, rfl⟩
  · cases ht with
    | text hlength =>
      refine (reads_keyword?_not "VARYING").bind ?_
        (fun _ hnext => noKeyword_of_textLength hnext (by simp)) rfl
      refine (reads_phrase?_not "LARGE" ["OBJECT"]).bind ?_
        (fun _ hnext => noKeyword_of_textLength hnext (by simp)) rfl
      exact ((reads_textLength hlength).mono fun _ => EndsType.ne_parenthesis).give _
  · have hkeyword : " ".intercalate [k, "VARYING"] = k ++ " VARYING" := by
      simp [← String.toList_inj]
    rw [hkeyword] at ht
    cases ht with
    | text hlength =>
      refine (reads_keyword? (by simp)).bind ?_ (by simp) rfl
      exact ((reads_textLength hlength).mono fun _ => EndsType.ne_parenthesis).give _
  · have hkeyword : " ".intercalate [k, "LARGE", "OBJECT"] = k ++ " LARGE OBJECT" := by
      simp [← String.toList_inj]
    rw [hkeyword] at ht
    cases ht with
    | sized hlength =>
      refine (reads_keyword?_not "VARYING").bind ?_ (by simp) rfl
      refine (reads_phrase? ["LARGE", "OBJECT"] (by simp)).bind ?_ (by simp) rfl
      exact ((reads_length hlength).mono fun _ => EndsType.ne_parenthesis).give _

/-- The special words with what may follow them. -/
theorem reads_specialPhrase {form : TypeForm} {k : String} {words : List String} {t : DataType}
    (h : (form, k :: words) ∈ specialPhrases) (ht : t.Formed (" ".intercalate (k :: words)) form) :
    Reads (specialType g k element) (words.map keywordToken ++ t.suffixTokens) (t, false)
      EndsType := by
  have hdouble : " ".intercalate ["DOUBLE", "PRECISION"] = "DOUBLE PRECISION" := by decide +kernel
  have hbit : " ".intercalate ["BIT", "VARYING"] = "BIT VARYING" := by decide +kernel
  simp only [specialPhrases, List.mem_cons, Prod.mk.injEq, List.cons.injEq, List.not_mem_nil,
    or_false] at h
  unfold specialType
  rcases h with ⟨rfl, rfl, rfl⟩ | ⟨rfl, rfl, rfl⟩ | ⟨rfl, rfl, rfl⟩ | ⟨rfl, rfl, rfl⟩ |
    ⟨rfl, rfl, rfl⟩ | ⟨rfl, rfl, rfl⟩ | ⟨rfl, rfl, rfl⟩ | ⟨rfl, rfl, rfl⟩ | ⟨rfl, rfl, rfl⟩ |
    ⟨rfl, rfl, rfl⟩
  · cases ht
    exact (reads_keyword?_not "PRECISION").bind (.pure _)
      (fun _ hnext => hnext.keyword (by simp)) rfl
  · rw [hdouble] at ht
    cases ht
    exact (reads_keyword? (by simp)).bind (.pure _) (by simp) rfl
  · cases ht with
    | sized hlength =>
      refine (reads_keyword?_not "VARYING").bind ?_
        (fun _ hnext => noKeyword_of_length hnext (by simp)) rfl
      exact ((reads_length hlength).mono fun _ => EndsType.ne_parenthesis).give _
  · rw [hbit] at ht
    cases ht with
    | sized hlength =>
      refine (reads_keyword? (by simp)).bind ?_ (by simp) rfl
      exact ((reads_length hlength).mono fun _ => EndsType.ne_parenthesis).give _
  all_goals exact (reads_characterType (by simp) ht).give _

/-- A type that is known by its words is read with what follows them. -/
theorem reads_typePhrase {form : TypeForm} {words : List String} {t : DataType}
    (h : (form, words) ∈ typePhrases) (ht : t.Formed (" ".intercalate words) form) :
    Reads (simpleType g element) (words.map keywordToken ++ t.suffixTokens) (t, false)
      EndsType := by
  have hforms : ∀ p ∈ typeForms, ∀ k ∈ p.2, typeForm? (.bare k) = some (p.1, k) := by
    decide +kernel
  have hspelled : ∀ p ∈ spelledTypes, typeForm? (.bare p.2) = none ∧
      spelledTypes.lookup (Word.bare p.2).capitals = some p.2 := by decide +kernel
  have hspecial : ∀ p ∈ specialPhrases, ∃ k ∈ p.2.head?, typeForm? (.bare k) = none ∧
      spelledTypes.lookup (Word.bare k).capitals = none ∧
      specialTypeWords.find? (Word.bare k).isKeyword = some k := by decide +kernel
  simp only [typePhrases, List.mem_append, List.mem_flatMap, List.mem_map, Prod.mk.injEq] at h
  rcases h with (⟨⟨form', ks⟩, hp, k, hk, rfl, rfl⟩ | ⟨⟨word, spelling⟩, hp, rfl, rfl⟩) | hp
  · rw [String.intercalate_singleton] at ht
    exact reads_simpleType_of_form (hforms _ hp k hk) (reads_formedType ht)
  · rw [String.intercalate_singleton] at ht
    cases ht
    exact reads_simpleType_of_spelling (hspelled _ hp).1 (hspelled _ hp).2
  · obtain ⟨k, hk, hform, hlookup, hfind⟩ := hspecial _ hp
    obtain ⟨others, rfl⟩ := List.head?_eq_some_iff.mp hk
    exact reads_simpleType_of_special hform hlookup hfind (reads_specialPhrase hp ht)

end Parser

/-! ### Types that are lists of values -/

/-- The tokens of a value that a type allows. -/
def Member.tokens (m : Member) : List Token :=
  .text .single m.name :: m.number.toList.flatMap fun n => [.symbol "=", .number n false]

/-- The tokens of the values that a type allows. -/
def memberTokens : List Member → List Token
  | [] => []
  | m :: ms => m.tokens ++ ms.flatMap fun m => .symbol "," :: m.tokens

namespace Parser

variable {g : Grammar} {element : Parser (DataType × Bool)}

theorem reads_literalText (d : Dialect) (s : String) :
    Reads (literalText d) [.text .single s] s fun _ => True :=
  .of_token fun _ _ => rfl

theorem reads_singleText (wanted s : String) :
    Reads (singleText wanted) [.text .single s] s fun _ => True :=
  .of_token fun _ _ => rfl

theorem reads_signedNumber (d : Dialect) (digits : String) :
    Reads (signedNumber d) [.number digits false] (.verbatim digits) fun _ => True := by
  unfold signedNumber
  refine (reads_symbol?_not "+").bind ?_ (by simp) rfl
  refine (reads_symbol?_not "-").bind ?_ (by simp) rfl
  have hspelling : (Token.number digits false).spelling = digits := by simp [Token.spelling]
  refine .of_token fun place rest => ?_
  have hvalue : numberValue d (⟨.number digits false, place⟩ :: rest)
      = .ok (.verbatim (Token.number digits false).spelling) rest := rfl
  rwa [hspelling] at hvalue

theorem reads_enumMember (d : Dialect) (m : Member) :
    Reads (enumMember d) m.tokens m EndsItem := by
  unfold enumMember
  obtain ⟨name, number⟩ := m
  refine (reads_literalText d name).bind ?_ (by simp) rfl
  cases number with
  | none =>
      refine (reads_symbol?_not "=").bind (.pure _) ?_ rfl
      rintro next (rfl | rfl) <;> simp
  | some n =>
      refine (reads_symbol? "=").bind ?_ (by simp) rfl
      exact (reads_signedNumber d n).bind (.pure _) (by simp) rfl

theorem reads_setValues (name : String) (names : List String) :
    Reads setValues (inParentheses (memberTokens ((name :: names).map fun n => ⟨n, none⟩)))
      ((name :: names).map fun n => ⟨n, none⟩) fun _ => True := by
  have htokens : memberTokens ((name :: names).map fun n => ⟨n, none⟩)
      = .text .single name :: names.flatMap fun n => [.symbol ",", .text .single n] := by
    simp [memberTokens, Member.tokens, List.flatMap_map]
  have hname : ∀ n ∈ names,
      Reads (singleText "a string") [.text .single n] n EndsItem := fun n _ =>
    (reads_singleText "a string" n).mono fun _ _ => trivial
  have hothers := Reads.commaTail hname
  rw [List.map_id'] at hothers
  rw [htokens]
  unfold setValues
  refine (reads_symbol "(").bind ?_ (by simp) rfl
  refine (reads_singleText "a string" name).bind ?_ (by simp) rfl
  refine hothers.bind ?_ (by simp) rfl
  exact (reads_symbol? ")").bind (.pure _) (by simp) rfl

end Parser

namespace Parser

variable {g : Grammar} {element : Parser (DataType × Bool)}

/-- The words of the types that are enumerations. -/
def enumerationWords : List String := ["ENUM", "ENUM8", "ENUM16"]

theorem reads_enumeration {keyword : String} (hkeyword : keyword ∈ enumerationWords) (m : Member)
    (ms : List Member) :
    Reads (specialType g keyword element) (inParentheses (memberTokens (m :: ms)))
      (.choice keyword (m :: ms), false) EndsType := by
  have hmembers : Reads (parenthesized (commaSeparated (enumMember g.dialect)))
      (inParentheses (memberTokens (m :: ms))) ((m :: ms).map id) EndsType :=
    (Reads.commaSeparated fun x _ => reads_enumMember g.dialect x).parenthesized
  rw [List.map_id] at hmembers
  simp only [enumerationWords, List.mem_cons, List.not_mem_nil, or_false] at hkeyword
  unfold specialType
  rcases hkeyword with rfl | rfl | rfl <;> exact hmembers.give _

theorem reads_set (name : String) (names : List String) :
    Reads (specialType g "SET" element)
      (inParentheses (memberTokens ((name :: names).map fun n => ⟨n, none⟩)))
      (.choice "SET" ((name :: names).map fun n => ⟨n, none⟩), false) EndsType :=
  ((reads_setValues name names).mono fun _ _ => trivial).give _

theorem reads_fixedText {n : Nat} (hn : n < 2 ^ 64) :
    Reads (specialType g "FIXEDSTRING" element) (inParentheses [numberToken n])
      (.sized "FixedString" (some n), false) EndsType := by
  have hnumber : Reads (natural 64) [numberToken n] n (· = some (.symbol ")")) :=
    (reads_natural hn).mono fun _ _ => trivial
  exact hnumber.parenthesized.give _

/-- The tokens of a zone after the digits of a moment. -/
def zoneTokens (zone : Option String) : List Token :=
  zone.toList.flatMap fun z => [.symbol ",", .text .single z]

theorem reads_preciseTime {digits : Nat} (hdigits : digits < 2 ^ 64) (zone : Option String) :
    Reads (specialType g "DATETIME64" element)
      (inParentheses (numberToken digits :: zoneTokens zone))
      (.compound ("DateTime64(" ++ toString digits
        ++ (zone.map fun z => ", '" ++ z ++ "'").getD "" ++ ")"), false) EndsType := by
  refine Reads.give (Reads.parenthesized ?_) _
  refine (reads_natural hdigits).bind ?_ (by simp) rfl
  cases zone with
  | none => exact (reads_symbol?_not ",").bind (.pure _) (by simp) rfl
  | some z =>
      refine (reads_symbol? ",").bind ?_ (by simp) rfl
      exact ((reads_literalText g.dialect z).map some).bind (.pure _) (by simp) rfl

end Parser

/-! ### Types of the user's -/

namespace Ident

/-- The identifier as a word. -/
def word (i : Ident) : Word :=
  match i.quote with
  | none => .bare i.text
  | some quote => .within quote i.text

@[simp] theorem word_text (i : Ident) : i.word.text = i.text := by
  obtain ⟨text, _ | quote⟩ := i <;> rfl

@[simp] theorem word_quote (i : Ident) : i.word.quote = i.quote := by
  obtain ⟨text, _ | quote⟩ := i <;> rfl

end Ident

/-- The identifiers of a name, from the outermost to the object itself. -/
def ObjectName.parts (name : ObjectName) : List Ident := name.qualifiers ++ [name.base]

/-- Identifiers with points between them. -/
def pathTokens : List Ident → List Token
  | [] => []
  | i :: is => .word i.word :: is.flatMap fun i => [.symbol ".", .word i.word]

/-- An argument of a type: a number, or a word. -/
def argumentToken (a : String) : Token :=
  if a.toList.all Char.isDigit then .number a false else .word (.bare a)

/-- The arguments of a type, if it has any. -/
def argumentTokens : List String → List Token
  | [] => []
  | a :: as => inParentheses
      (argumentToken a :: as.flatMap fun a => [.symbol ",", argumentToken a])

/-- The words that begin types of other kinds than the user's, or stand for no type. -/
def Dialect.typeWords (d : Dialect) : List String :=
  typeForms.flatMap (·.2) ++ spelledTypes.map (·.1) ++ specialTypeWords
    ++ (if d = .generic then "STRUCT" :: nestingWords else [])
    ++ (if d = .sqlite then untypedStops else [])

namespace Parser

variable {g : Grammar} {element : Parser (DataType × Bool)}

theorem reads_ident_word (i : Ident) : Reads ident [.word i.word] i fun _ => True := by
  have h := reads_ident i.word
  rwa [Ident.word_text, Ident.word_quote] at h

theorem reads_objectName (name : ObjectName) :
    Reads objectName (pathTokens name.parts) name (· ≠ some (.symbol ".")) := by
  obtain ⟨first, others, hparts⟩ : ∃ first others, name.parts = first :: others :=
    List.exists_cons_of_ne_nil (by simp [ObjectName.parts])
  have hreverse : (first :: others).reverse = name.base :: name.qualifiers.reverse := by
    rw [← hparts, ObjectName.parts, List.reverse_concat]
  have hmore : Reads (many do if ← symbol? "." then some <$> ident else return none)
      (others.flatMap (fun i => [.symbol ".", .word i.word]) ++ []) (others.map id)
      (· ≠ some (.symbol ".")) :=
    .many (fun i _ => (reads_symbol? ".").bind ((reads_ident_word i).map some) (by simp) rfl)
      ((reads_symbol?_not ".").bind (.pure _) (fun _ h => h) rfl) (by simp) (by simp) (by simp)
  rw [List.append_nil, List.map_id] at hmore
  rw [hparts]
  unfold objectName
  refine (reads_ident_word first).bind ?_ (by simp) rfl
  refine hmore.bind_nil ?_
  rw [hreverse]
  simp only [List.reverse_reverse]
  exact .pure name

theorem typeArgument_argumentToken (a : String) : typeArgument (argumentToken a) = some a := by
  unfold argumentToken
  split <;> rfl

theorem argumentToken_ne_symbol (a s : String) : argumentToken a ≠ .symbol s := by
  unfold argumentToken
  split <;> simp

/-- One more argument, with whatever commas stand before it. -/
def argument? : Parser (Option String) := do
  let _ ← many do if ← symbol? "," then return some () else return none
  match (← next?).bind typeArgument with
  | some a => skip; return some a
  | none => return none

theorem reads_argument? (commas : Nat) (a : String) :
    Reads argument? (List.replicate commas (.symbol ",") ++ [argumentToken a]) (some a)
      fun _ => True := by
  refine (reads_manySymbol "," commas).bind ?_ (by simp [argumentToken_ne_symbol]) rfl
  refine .of_token fun place rest => ?_
  simp [typeArgument_argumentToken]

theorem reads_argument?_none : Reads argument? [] none (· = some (.symbol ")")) := by
  refine (reads_manySymbol "," 0).bind ?_ (by simp) rfl
  refine .of_next fun rest hrest => ?_
  simp [hrest, typeArgument]

theorem reads_typeArguments (args : List String) :
    Reads typeArguments (argumentTokens args) args (· ≠ some (.symbol "(")) := by
  unfold typeArguments
  cases args with
  | nil => exact (reads_symbol?_not "(").bind (.pure _) (fun _ h => h) rfl
  | cons a as =>
      have hmany : Reads (many argument?)
          (((0, a) :: as.map fun a => (1, a)).flatMap
            (fun b => List.replicate b.1 (.symbol ",") ++ [argumentToken b.2]) ++ [])
          (((0, a) :: as.map fun a => (1, a)).map Prod.snd) (· = some (.symbol ")")) :=
        .many (fun b _ => reads_argument? b.1 b.2) reads_argument?_none (by simp) (by simp)
          (by simp)
      have hargs : Reads (many argument?)
          (argumentToken a :: as.flatMap fun a => [.symbol ",", argumentToken a]) (a :: as)
          (· = some (.symbol ")")) := by
        simpa [List.flatMap_map] using hmany
      refine (reads_symbol? "(").bind ?_ (by simp) rfl
      refine hargs.bind ?_ (by simp) rfl
      exact (reads_symbol? ")").bind (.pure _) (by simp) rfl

theorem reads_customType (name : ObjectName) (args : List String) :
    Reads customType (pathTokens name.parts ++ argumentTokens args) (.custom name args)
      EndsType := by
  have hargs : Reads (do return DataType.custom name (← typeArguments)) (argumentTokens args)
      (.custom name args) EndsType :=
    ((reads_typeArguments args).mono fun _ => EndsType.ne_parenthesis).give _
  refine (reads_objectName name).bind hargs (fun next hnext => ?_) rfl
  cases args with
  | nil => exact hnext.symbol (by simp)
  | cons a as => simp [argumentTokens, inParentheses]

/-- A word that begins no type of another kind begins one of the user's. -/
theorem reads_simpleType_of_custom {w : Word} {tokens : List Token} {t : DataType}
    {next : Option Token → Prop} (hw : w.capitals ∉ g.dialect.typeWords)
    (ht : Reads customType (.word w :: tokens) t next) :
    Reads (simpleType g element) (.word w :: tokens) (t, false) next := by
  intro found rest hfound hrest
  have hcustom := ht found rest hfound hrest
  obtain ⟨place, others, rfl, hothers⟩ := map_token_eq_cons_iff.mp hfound
  simp only [Dialect.typeWords, List.mem_append, not_or] at hw
  obtain ⟨⟨⟨⟨hforms, hspellings⟩, hspecial⟩, hgeneric⟩, _⟩ := hw
  have hform : typeForm? w = none := by
    rw [typeForm?, List.findSome?_eq_none_iff]
    rintro ⟨form, ks⟩ hp
    rw [Option.map_eq_none_iff, List.find?_eq_none]
    intro k hk hkeyword
    have hcapitals : w.capitals = k := by simpa [Word.isKeyword] using hkeyword
    exact hforms (List.mem_flatMap.mpr ⟨_, hp, hcapitals ▸ hk⟩)
  have hspelled : spelledTypes.lookup w.capitals = none := by
    rw [List.lookup_eq_none_iff]
    intro p hp
    exact bne_iff_ne.mpr fun heq => hspellings (List.mem_map.mpr ⟨p, hp, heq.symm⟩)
  have hnot : ∀ ks : List String, w.capitals ∉ ks → ∀ k ∈ ks,
      (nextOf (⟨.word w, place⟩ :: (others ++ rest))).any (·.isKeyword k) = false := by
    intro ks hks k hk
    exact beq_false_of_ne fun heq => hks (heq ▸ hk)
  have hcustom' : ((·, false) <$> customType) (⟨.word w, place⟩ :: (others ++ rest))
      = .ok (t, false) rest := by
    rw [map_apply, ← List.cons_append, hcustom]
  unfold simpleType
  by_cases hg : g.isGeneric
  · have hdialect : g.dialect = .generic := by simpa [Grammar.isGeneric] using hg
    rw [if_pos hdialect] at hgeneric
    have hstruct := hnot _ hgeneric "STRUCT" List.mem_cons_self
    have hnesting := hnot nestingWords fun h => hgeneric (List.mem_cons_of_mem _ h)
    simpa [hform, hspelled, keywordOf?_of_next (hnot _ hspecial), hg, keyword?_of_next hstruct,
      keywordOf?_of_next hnesting] using hcustom'
  · simpa [hform, hspelled, keywordOf?_of_next (hnot _ hspecial), hg] using hcustom'

end Parser

end TableGraph.Sql
