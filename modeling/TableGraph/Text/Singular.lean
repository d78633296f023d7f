/-
Singular forms of English words, by the form of their ending.

The rules guess: they are meant for the names of tables, which are most often plurals of
plain words, and they are tried in order until one fits.  A rule that names the start of
an irregular word loses what stands before it (`user_movies` becomes `movie`), and a rule
that names an ending only keeps it.
-/

namespace TableGraph.Text

/-- Words that have no plural, and are left alone. -/
def uncountableWords : List String := [
  "accommodation", "adulthood", "advertising", "advice", "aggression", "aid", "air",
  "aircraft", "alcohol", "anger", "applause", "arithmetic", "assistance", "athletics",
  "bacon", "baggage", "beef", "biology", "blood", "botany", "bread", "butter", "carbon",
  "cardboard", "cash", "chalk", "chaos", "chess", "crossroads", "countryside", "dancing",
  "deer", "dignity", "dirt", "dust", "economics", "education", "electricity",
  "engineering", "enjoyment", "envy", "equipment", "ethics", "evidence", "evolution",
  "fame", "fiction", "flour", "flu", "food", "fuel", "fun", "furniture", "gallows",
  "garbage", "garlic", "genetics", "gold", "golf", "gossip", "grammar", "gratitude",
  "grief", "guilt", "gymnastics", "happiness", "hardware", "harm", "hate", "hatred",
  "health", "heat", "help", "homework", "honesty", "honey", "hospitality", "housework",
  "humour", "hunger", "hydrogen", "ice", "importance", "inflation", "information",
  "innocence", "iron", "irony", "jam", "jewelry", "judo", "karate", "knowledge", "lack",
  "laughter", "lava", "leather", "leisure", "lightning", "linguine", "linguini",
  "linguistics", "literature", "litter", "livestock", "logic", "loneliness", "luck",
  "luggage", "macaroni", "machinery", "magic", "management", "mankind", "marble",
  "mathematics", "mayonnaise", "measles", "methane", "milk", "money", "mud", "music",
  "mumps", "nature", "news", "nitrogen", "nonsense", "nurture", "nutrition", "obedience",
  "obesity", "oxygen", "pasta", "patience", "physics", "poetry", "pollution", "poverty",
  "pride", "psychology", "publicity", "punctuation", "quartz", "racism", "relaxation",
  "reliability", "research", "respect", "revenge", "rice", "rubbish", "rum", "safety",
  "scenery", "seafood", "seaside", "series", "shame", "sheep", "shopping", "sleep",
  "smoke", "smoking", "snow", "soap", "software", "soil", "spaghetti", "species", "steam",
  "stuff", "stupidity", "sunshine", "symmetry", "tennis", "thirst", "thunder", "timber",
  "traffic", "transportation", "trust", "underwear", "unemployment", "unity", "validity",
  "veal", "vegetation", "vegetarianism", "vengeance", "violence", "vitality", "warmth",
  "wealth", "weather", "welfare", "wheat", "wildlife", "wisdom", "yoga", "zinc",
  "zoology"]

/-- Words whose singular form follows no rule. -/
def irregularWords : List (String × String) := [
  ("oxen", "ox"), ("boxes", "box"), ("men", "man"), ("women", "woman"), ("dice", "die"),
  ("yeses", "yes"), ("feet", "foot"), ("eaves", "eave"), ("geese", "goose"),
  ("teeth", "tooth"), ("quizzes", "quiz")]

/-- A way from a plural to a singular. -/
inductive SingularRule
  /-- The whole word is one of these: it becomes `singular`. -/
  | word (plurals : List String) (singular : String)
  /-- The word begins so: it becomes the beginning, less its last `cut` characters. -/
  | beginning (start : String) (cut : Nat)
  /-- The word ends in one of the stems and one of the endings: it becomes the stem and
  the replacement, and loses what stands before the stem. -/
  | stem (stems endings : List String) (replacement : String)
  /-- The word ends so, after a character that `before` accepts, which is kept unless
  `cut`: the ending is replaced. -/
  | ending (before : Option Char → Bool) (cut : Nat) (ending replacement : String)

/-- What stands before the ending, if the word has it. -/
def beforeEnding? (word ending : List Char) : Option (List Char) :=
  if ending.isSuffixOf word then some (word.take (word.length - ending.length)) else none

/-- The singular that the rule finds, if it fits. -/
def SingularRule.singular? (word : List Char) : SingularRule → Option (List Char)
  | .word plurals single =>
    if plurals.contains (String.ofList word) then some single.toList else none
  | .beginning start cut =>
    if start.toList.isPrefixOf word then some (start.toList.take (start.length - cut)) else none
  | .stem stems tails replacement =>
    (stems.find? fun body => tails.any fun tail => (body ++ tail).toList.isSuffixOf word).map
      fun body => body.toList ++ replacement.toList
  | .ending before cut tail replacement =>
    match beforeEnding? word tail.toList with
    | some rest =>
      if before rest.getLast? then some (rest.take (rest.length - cut) ++ replacement.toList)
      else none
    | none => none

/-- Any character or none. -/
def anything : Option Char → Bool := fun _ => true

/-- One of these characters. -/
def oneOf (chars : List Char) : Option Char → Bool
  | some c => chars.contains c
  | none => false

/-- A character, and none of these. -/
def noneOf (chars : List Char) : Option Char → Bool
  | some c => !chars.contains c
  | none => false

/-- The rules in the order in which they are tried. -/
def singularRules : List SingularRule := [
  .stem ["database"] ["s"] "",
  .stem ["quiz"] ["zes"] "",
  .stem ["matr"] ["ices"] "ix",
  .stem ["vert", "ind"] ["ices"] "ex",
  .beginning "oxen" 2,
  .stem ["alias", "status"] ["", "es"] "",
  .stem ["octop", "vir"] ["us", "i"] "us",
  .word ["axis", "axes"] "axis",
  .stem ["cris", "test"] ["is", "es"] "is",
  .stem ["shoe"] ["s"] "",
  .stem ["bus"] ["", "es"] "",
  .stem ["m", "l"] ["ice"] "ouse",
  .ending anything 0 "xes" "x",
  .ending anything 0 "ches" "ch",
  .ending anything 0 "sses" "ss",
  .ending anything 0 "shes" "sh",
  .stem ["m"] ["ovies"] "ovie",
  .stem ["s"] ["eries"] "eries",
  .ending (noneOf ['a', 'e', 'i', 'o', 'u', 'y']) 0 "ies" "y",
  .ending anything 0 "quies" "quy",
  .ending (oneOf ['l', 'r']) 1 "ves" "f",
  .ending anything 0 "tives" "",
  .ending anything 0 "hives" "",
  .ending (noneOf ['f']) 1 "ves" "fe",
  .word ["analysis", "analyses"] "analysis",
  .stem ["analy", "ba", "diagno", "parenthe", "progno", "synop", "the"] ["sis", "ses"] "sis",
  .ending (oneOf ['t', 'i']) 1 "a" "um",
  .ending anything 0 "oes" "",
  .stem ["n"] ["ews"] "ews",
  .ending anything 0 "ss" "ss",
  .ending anything 0 "s" ""]

/-- The singular of a lower-case word, or the word itself if it looks like none. -/
def singular (word : String) : String :=
  if uncountableWords.contains word then word
  else match irregularWords.find? (·.1 == word) with
    | some (_, found) => found
    | none => ((singularRules.findSome? (·.singular? word.toList)).map String.ofList).getD word

end TableGraph.Text
