/-
How many columns a text takes when it is drawn in a fixed pitch.

The width is the sum of the widths of the characters, with exceptions in which several
characters are drawn as one: a carriage return before a line feed; an emoji with its
selector, its skin tone or the parts that joiners tie to it; letters of a few scripts that
flow into each other.

Whether a character belongs to what follows it depends on no more than a little about the
text after it, so a text is read from its back.  What the reading has to know is the
`Front` of the text read so far, and one more character adds to the width by `step`.  The
addition may be negative: a character can turn out to take less room once it is known what
stands before it, but never less than nothing together with that.
-/
import TableGraph.Text.WidthTables

namespace TableGraph.Text

/-! ### Single characters -/

/-- The selector that asks for the text form of an emoji. -/
def textSelector : Char := '\ufe0e'

/-- The selector that asks for the emoji form of a character. -/
def emojiSelector : Char := '\ufe0f'

/-- The selector that asks for the wide form of a quotation mark. -/
def wideSelector : Char := '\ufe01'

/-- The zero-width joiner. -/
def joiner : Char := '\u200d'

/-- The flag that tags after it turn into the flag of a region. -/
def blackFlag : Char := Char.ofNat 0x1F3F4

/-- A skin tone, which colours the emoji before it. -/
def isSkinTone (c : Char) : Bool := inRanges [(0x1F3FB, 0x1F3FF)] c

/-- One of the letters of which two make a flag. -/
def isFlagLetter (c : Char) : Bool := inRanges [(0x1F1E6, 0x1F1FF)] c

/-- An emoji that is drawn as one without being asked to. -/
def isEmoji (c : Char) : Bool := inRanges emojiByDefaultRanges c && !isSkinTone c

/-- A character that a selector can turn into an emoji. -/
def takesEmojiSelector (c : Char) : Bool :=
  inRanges textByDefaultRanges c || inRanges textOnRequestRanges c
    || inRanges [(0x1F21A, 0x1F21A), (0x1F22F, 0x1F22F)] c

/-- A quotation mark that has a wide form. -/
def takesWideSelector (c : Char) : Bool := inRanges [(0x2018, 0x2019), (0x201C, 0x201D)] c

/-- The letters of the joining group Lam. -/
def isLam (c : Char) : Bool :=
  inRanges [(0x644, 0x644), (0x6B5, 0x6B8), (0x76A, 0x76A), (0x8A6, 0x8A6), (0x8C7, 0x8C7)] c

/-- The letters of the joining group Alef. -/
def isAlef (c : Char) : Bool :=
  inRanges [(0x622, 0x623), (0x625, 0x625), (0x627, 0x627), (0x671, 0x673), (0x675, 0x675),
    (0x773, 0x774), (0x870, 0x882)] c

/-- The Khmer consonants and vowels that a sign before them puts below the line. -/
def isKhmerLetter (c : Char) : Bool :=
  inRanges [(0x1780, 0x1782), (0x1784, 0x1787), (0x1789, 0x178C), (0x178E, 0x1793),
    (0x1795, 0x1798), (0x179B, 0x179D), (0x17A0, 0x17A0), (0x17A2, 0x17A2), (0x17A7, 0x17A7),
    (0x17AB, 0x17AC), (0x17AF, 0x17AF)] c

/-- The Tifinagh consonants. -/
def isTifinaghConsonant (c : Char) : Bool := inRanges [(0x2D31, 0x2D65), (0x2D6F, 0x2D6F)] c

/-- The sign that joins two Tifinagh consonants. -/
def tifinaghJoiner : Char := '\u2d7f'

/-- The width of a character that stands alone. -/
def charWidth (c : Char) : Nat :=
  if c.toNat ≤ 0xA0 then 1
  else if c = '\u17d8' then 3
  else if inRanges zeroWidthRanges c then 0
  else if inRanges doubleWidthRanges c then 2
  else 1

/-- A mark that does not break the tie between a lam and an alef. -/
def isTransparent (c : Char) : Bool := charWidth c == 0 && !inRanges partingRanges c

/-- A mark that is not drawn, and breaks no tie of the other scripts. -/
def isUndrawnMark (c : Char) : Bool :=
  inRanges [(0x34F, 0x34F), (0x17B4, 0x17B5), (0x180B, 0x180D), (0x180F, 0x180F),
    (0xFE00, 0xFE0F), (0xE0100, 0xE01EF)] c

/-! ### What a text begins with -/

/-- Letters that are drawn as one with what stands before them, also over marks that are not
drawn.  A joiner may have been read before some of them. -/
inductive Ligature
  | alef
  | lamed (joined : Bool)
  | khmerLetter
  | bugineseYa (joined : Bool)
  /-- The vowel sign that the Buginese letter takes, and the joined letter. -/
  | bugineseVowel
  | tifinagh (joined : Bool)
  /-- The sign that joins, and a consonant. -/
  | tifinaghJoined
  | lisuTone
  | orkhonI (joined : Bool)
deriving Repr, DecidableEq

/-- What matters about the beginning of a text for the character before it. -/
inductive Shape
  | plain
  | lineFeed
  | skinTone
  /-- A letter of a flag, or several. -/
  | flagLetter (several : Bool)
  | emoji
  /-- A joiner and an emoji. -/
  | joinedEmoji
  /-- The mark of a keycap, a joiner and an emoji. -/
  | joinedKeycap
  /-- So many letters of flags, a joiner and an emoji. -/
  | joinedFlag (letters : Nat)
  /-- Tags of a flag before the one that ends it: digits, letters, then a joiner and an emoji. -/
  | joinedTags (letters digits : Nat)
  | ligature (l : Ligature)
  /-- The vowel signs of Kirat Rai, which nothing may part from what stands before them. -/
  | kiratRaiE
  | kiratRaiAi
deriving Repr, DecidableEq

/-- A selector, which asks for a form of the character before it. -/
inductive Selector
  | text
  | emoji
  | wide
deriving Repr, DecidableEq

/-- The beginning of a text: a selector, and what comes after it. -/
structure Front where
  selector : Option Selector := none
  shape : Shape := .plain
deriving Repr, DecidableEq

/-- The letter with a joiner before it. -/
def Ligature.join : Ligature → Ligature
  | lamed _ => lamed true
  | bugineseYa _ => bugineseYa true
  | tifinagh _ => tifinagh true
  | orkhonI _ => orkhonI true
  | l => l

/-- What is left of the beginning for a character that takes no notice of the selector. -/
def Front.rest (f : Front) : Shape :=
  match f.selector, f.shape with
  | none, s => s
  | some _, .ligature l => .ligature l
  | some _, _ => .plain

/-- The beginning with a selector before it. -/
def Front.select (f : Front) (s : Selector) : Front :=
  match s, f.rest with
  | _, .ligature l => ⟨some s, .ligature l⟩
  | .emoji, .joinedEmoji => ⟨some s, .joinedEmoji⟩
  | .emoji, .joinedKeycap => ⟨some s, .joinedKeycap⟩
  | _, _ => ⟨some s, .plain⟩

/-- What a text begins with if it begins with this character, whatever comes after. -/
def shapeOf (c : Char) : Shape :=
  if isSkinTone c then .skinTone
  else if isFlagLetter c then .flagLetter false
  else if isEmoji c then .emoji
  else if isAlef c then .ligature .alef
  else if isKhmerLetter c then .ligature .khmerLetter
  else if isTifinaghConsonant c then .ligature (.tifinagh false)
  else match c.toNat with
    | 0xA => .lineFeed
    | 0x5DC => .ligature (.lamed false)
    | 0x1A10 => .ligature (.bugineseYa false)
    | 0xA4FC | 0xA4FD => .ligature .lisuTone
    | 0x10C03 => .ligature (.orkhonI false)
    | 0x16D67 => .kiratRaiE
    | 0x16D68 => .kiratRaiAi
    | _ => .plain

/-! ### Reading one more character -/

/-- What the character adds if it is drawn as one with the letter after it. -/
def flowInto (c : Char) : Ligature → Option (Int × Shape)
  | .alef =>
    if isLam c then some (0, .plain)
    else if isTransparent c then some (0, .ligature .alef)
    else none
  | .lamed true => if c = '\u05d0' then some (0, .plain) else none
  | .khmerLetter => if c = '\u17d2' then some (-1, .plain) else none
  | .bugineseYa true => if c = '\u1a17' then some (0, .ligature .bugineseVowel) else none
  | .bugineseVowel => if c = '\u1a15' then some (0, .plain) else none
  | .tifinagh joined =>
    if c = tifinaghJoiner then some (1, .ligature .tifinaghJoined)
    else if joined && isTifinaghConsonant c then some (0, .plain)
    else none
  | .tifinaghJoined => if isTifinaghConsonant c then some (-1, .plain) else none
  | .lisuTone => if inRanges [(0xA4F8, 0xA4FB)] c then some (0, .plain) else none
  | .orkhonI true => if c.toNat = 0x10C32 then some (0, .plain) else none
  | _ => none

/-- What the character adds before the letter. -/
def beforeLigature (c : Char) (l : Ligature) : Option (Int × Shape) :=
  if l = .alef then flowInto c l
  else if c = joiner then some (0, .ligature l.join)
  else if isUndrawnMark c then some (0, .ligature l)
  else flowInto c l

/-- What the character adds if it is a tag before tags of a flag. -/
def beforeTags (c : Char) (letters digits : Nat) : Option (Int × Shape) :=
  if inRanges [(0xE0061, 0xE007A)] c && digits == 0 && letters < 6 then
    some (0, .joinedTags (letters + 1) 0)
  else if inRanges [(0xE0030, 0xE0039)] c && (letters < 5 || digits != 0) && digits < 3 then
    some (0, .joinedTags letters (digits + 1))
  else if c = blackFlag && (digits == 3 || digits == 0 && 3 ≤ letters) then some (0, .emoji)
  else none

/-- What the character adds before an emoji that a joiner ties to it. -/
def beforeJoinedEmoji (c : Char) : Option (Int × Shape) :=
  if isFlagLetter c then some (1, .joinedFlag 1)
  else if isSkinTone c then some (0, .skinTone)
  else if isEmoji c then some (0, .emoji)
  else match c.toNat with
    | 0x20E3 => some (0, .joinedKeycap)
    | 0xE007F => some (0, .joinedTags 0 0)
    | _ => none

/-- What the character adds if it is drawn as one with what the text begins with. -/
def tie (c : Char) : Shape → Option (Int × Shape)
  | .ligature l => beforeLigature c l
  | .skinTone =>
    if inRanges skinToneBaseRanges c then some (0, .emoji)
    else if c = joiner then some (0, .joinedEmoji)
    else none
  | .flagLetter several =>
    if isFlagLetter c then some (1, .flagLetter true)
    else if several && c = joiner then some (0, .joinedEmoji)
    else none
  | .emoji => if c = joiner then some (0, .joinedEmoji) else none
  | .joinedEmoji => beforeJoinedEmoji c
  | .joinedFlag letters =>
    if isFlagLetter c then some (if letters % 2 = 0 then 3 else -1, .joinedFlag (letters + 1))
    else if 2 ≤ letters && c = joiner then some (0, .joinedEmoji)
    else none
  | .joinedTags letters digits => beforeTags c letters digits
  | .kiratRaiE =>
    match c.toNat with
    | 0x16D63 | 0x16D69 => some (0, .plain)
    | 0x16D67 => some (0, .kiratRaiAi)
    | 0x16D68 => some (1, .kiratRaiE)
    | _ => none
  | .kiratRaiAi => if c.toNat = 0x16D63 then some (0, .plain) else none
  | _ => none

/-- The selector that the character is. -/
def selectorOf? (c : Char) : Option Selector :=
  if c = emojiSelector then some .emoji
  else if c = textSelector then some .text
  else if c = wideSelector then some .wide
  else none

/-- What the selector at the front makes of the character before it. -/
def underSelector (c : Char) (f : Front) : Option (Int × Shape) :=
  match f.selector with
  | some .emoji =>
    if takesEmojiSelector c then
      some (if f.shape = .joinedEmoji ∨ f.shape = .joinedKeycap then 0 else 2, .emoji)
    else none
  | some .text => if inRanges textOnRequestRanges c then some (1, .plain) else none
  | some .wide => if takesWideSelector c then some (2, .plain) else none
  | none => none

/-- What a character adds to the width of the text after it, and what the text begins with
then. -/
def step (c : Char) (f : Front) : Int × Front :=
  match underSelector c f with
  | some (added, shape) => (added, { shape })
  | none =>
    if c = '\r' && f == { shape := .lineFeed } then (0, {})
    else match selectorOf? c with
      | some s => (0, f.select s)
      | none =>
        match tie c f.rest with
        | some (added, shape) => (added, { shape })
        | none => (charWidth c, { shape := shapeOf c })

/-- The width of a text and what it begins with. -/
def measure (text : List Char) : Int × Front :=
  text.foldr (fun c (sum, front) => ((step c front).1 + sum, (step c front).2)) (0, {})

/-- The number of columns that the text takes. -/
def width (s : String) : Nat := (measure s.toList).1.toNat

end TableGraph.Text
