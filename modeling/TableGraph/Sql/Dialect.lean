/-
Dialects of SQL, and how one is recognised by its text.

A dialect is looked for by clues, which are tried in order: the header that a tool leaves
in its dump, then words that only one dialect uses.  A clue is a list of markers, any of
which is enough wherever it stands.  The text is compared in lower case.
-/
import TableGraph.Text.Find
import TableGraph.Text.Lowercase

namespace TableGraph.Sql

open Text

/-- The dialects that differ in their grammar. -/
inductive Dialect
  | generic
  | postgresql
  | mysql
  | sqlite
deriving Repr, DecidableEq, Inhabited

/-- A dialect, or the wish that it be recognised. -/
inductive DialectChoice
  | auto
  | fixed (dialect : Dialect)
deriving Repr, DecidableEq, Inhabited

namespace Dialect

/-- The name of a dialect. -/
def name : Dialect → String
  | .generic => "generic"
  | .postgresql => "postgresql"
  | .mysql => "mysql"
  | .sqlite => "sqlite"

/-- Markers that speak for a dialect. -/
structure Clue where
  dialect : Dialect
  markers : List String
deriving Repr, DecidableEq

/-- The clues in the order in which they are tried; `\x60` is the backtick. -/
def clues : List Clue := [
  ⟨.postgresql, ["postgresql database dump", "pg_dump", "-- postgres"]⟩,
  ⟨.mysql, ["mysql dump", "mysqldump", "-- mysql", "mariadb dump"]⟩,
  ⟨.sqlite, ["-- sqlite", "pragma "]⟩,
  ⟨.postgresql, ["serial", "text[]", "::text", "timestamptz", "jsonb"]⟩,
  ⟨.mysql, ["auto_increment", "tinyint", "engine=", "unsigned", "\x60"]⟩,
  ⟨.sqlite, ["autoincrement", "without rowid"]⟩]

/-- One of the clue's markers stands in the text, which is in lower case. -/
def Clue.found (lowered : String) (clue : Clue) : Bool := clue.markers.any (contains lowered)

/-- The place of the first clue that is found, or the number of clues. -/
def clueIndex (text : String) : Nat := clues.findIdx (Clue.found (lowercase text))

/-- The dialect that the first clue speaks for. -/
def detect (text : String) : Dialect :=
  match clues[clueIndex text]? with
  | some clue => clue.dialect
  | none => .generic

end Dialect

namespace DialectChoice

/-- The name of a choice. -/
def name : DialectChoice → String
  | .auto => "auto"
  | .fixed dialect => dialect.name

/-- The choice of this name, in any case. -/
def ofName? (s : String) : Option DialectChoice :=
  let lowered := lowercase s
  if lowered = "auto" then some .auto
  else if ["generic", "ansi"].contains lowered then some (.fixed .generic)
  else if ["postgres", "postgresql", "pg"].contains lowered then some (.fixed .postgresql)
  else if ["mysql", "mariadb"].contains lowered then some (.fixed .mysql)
  else if ["sqlite", "sqlite3"].contains lowered then some (.fixed .sqlite)
  else none

/-- The dialect chosen for this text. -/
def resolve (choice : DialectChoice) (text : String) : Dialect :=
  match choice with
  | .auto => Dialect.detect text
  | .fixed dialect => dialect

end DialectChoice

end TableGraph.Sql
