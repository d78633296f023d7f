/-
The primary keys of a schema, by the names of their tables.

Each entry stands for the tables whose names become equal by `lowercase`.  It keeps the
place and the name of the first such table that has a key, and the key column of the
last.  The patterns of an entry are the names of columns that are taken to refer to its
table: `users_id`, `usersid` and `users`, and the same for the singular `user`.

How a singular is formed is a parameter: nothing here depends on it being English.
-/
import TableGraph.Text.Lowercase
import TableGraph.Schema.Basic

namespace TableGraph

open Text

/-- The name of a key column that says nothing about its table. -/
def genericKey : String := "id"

/-- Names of columns that refer to a table of this name. -/
def columnPatterns (stem : String) : List String := [stem ++ "_id", stem ++ "id", stem]

/-- A character of a word, as far as the forming of a singular is concerned. -/
def isWordChar (c : Char) : Bool := c.isAlphanum || c == '_'

/-- The last word of a name and what stands before it. -/
def splitLastWord (name : String) : String × String :=
  let backwards := name.toList.reverse
  (String.ofList (backwards.dropWhile isWordChar).reverse,
    String.ofList (backwards.takeWhile isWordChar).reverse)

/-- The name with its last word in the singular.  There is none if the name does not
change, or if the singular is too short to mean anything or is the generic key. -/
def singularStem? (toSingular : String → String) (name : String) : Option String :=
  let (before, word) := splitLastWord name
  if word.isEmpty then none
  else
    let found := toSingular word
    if found.utf8ByteSize < 2 || found == word || found == genericKey then none
    else some (before ++ found)

/-- The designated key of a table, and the names of columns that refer to it. -/
structure KeyEntry where
  /-- The table's name in lower case. -/
  key : String
  /-- The table's name as declared. -/
  table : String
  /-- The key column. -/
  column : String
  /-- Names of columns that refer to the table. -/
  patterns : List String
  /-- Names to fall back on, built from the singular of the table's name. -/
  singularPatterns : List String
deriving Repr, DecidableEq, Inhabited

namespace KeyEntry

/-- The entry of a table with this key column. -/
def ofTable (toSingular : String → String) (table column : String) : KeyEntry :=
  let key := lowercase table
  { key, table, column
    patterns := columnPatterns key
    singularPatterns := ((singularStem? toSingular key).map columnPatterns).getD [] }

/-- The name, in lower case, refers to the table literally. -/
def matchesLiterally (e : KeyEntry) (lowered : String) : Bool := e.patterns.contains lowered

/-- The name, in lower case, refers to the table by its singular. -/
def matchesSingular (e : KeyEntry) (lowered : String) : Bool := e.singularPatterns.contains lowered

end KeyEntry

/-- The entries in the order of the first tables they stand for. -/
abbrev KeyIndex := List KeyEntry

namespace KeyIndex

/-- Adds a table: one without a key is left out, and one whose name is known replaces the
key column of its entry. -/
def add (toSingular : String → String) (index : KeyIndex) (t : Table) : KeyIndex :=
  match t.primaryKey? with
  | none => index
  | some column =>
    match index.findIdx? (·.key == lowercase t.name) with
    | some i => index.modify i fun e => { e with column := column.name }
    | none => index ++ [KeyEntry.ofTable toSingular t.name column.name]

/-- The index of these tables. -/
def ofTables (toSingular : String → String) (tables : List Table) : KeyIndex :=
  tables.foldl (add toSingular) []

/-- The entry of the table of this name. -/
def get? (index : KeyIndex) (table : String) : Option KeyEntry :=
  index.find? (·.key == lowercase table)

end KeyIndex

end TableGraph
