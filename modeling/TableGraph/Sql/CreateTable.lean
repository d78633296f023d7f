/-
Statements that create tables.

A column has a type and options; the text of an option is how the option is written, and
is all that most options are good for.  Keys may be declared on a column or as a
constraint of the table.  Statements of other kinds have no content here.
-/
import TableGraph.Sql.Expr

namespace TableGraph.Sql

/-- What is done to a row when the row it refers to changes. -/
inductive ReferentialAction
  | restrict
  | cascade
  | setNull
  | noAction
  | setDefault
deriving Repr, DecidableEq, Inhabited

/-- When a constraint is checked, so far as it is said. -/
structure Timing where
  deferrable : Option Bool := none
  initiallyDeferred : Option Bool := none
  enforced : Option Bool := none
deriving Repr, DecidableEq, Inhabited

/-- A reference to columns of a table. -/
structure Reference where
  table : ObjectName
  columns : List Ident := []
  onDelete : Option ReferentialAction := none
  onUpdate : Option ReferentialAction := none
  timing : Timing := {}
deriving Repr, DecidableEq, Inhabited

/-- How the values of a computed column are kept. -/
inductive Keeping
  | unstated
  | stored
  | computed
deriving Repr, DecidableEq, Inhabited

/-- When a column's value is generated. -/
inductive GenerationTime
  | always
  | byDefault
deriving Repr, DecidableEq, Inhabited

/-- An option of a column. -/
inductive ColumnOption
  | notNull
  | null
  | default (e : Expr)
  | onUpdate (e : Expr)
  | primaryKey (timing : Timing)
  | unique (timing : Timing)
  | references (reference : Reference)
  | check (e : Expr)
  | comment (text : String)
  | characterSet (name : ObjectName)
  /-- A number that is counted, and what is said about its sequence. -/
  | identity (time : GenerationTime) (sequence : List Expr)
  /-- A computed column; `always` says whether it is called generated. -/
  | computed (always : Bool) (e : Expr) (keeping : Keeping)
  /-- A value that is made when rows are written or read, after the word that says when. -/
  | derived (word : String) (e : Option Expr)
  | onConflict (action : String)
  /-- Words that some dialects have, as they are written. -/
  | words (s : String)
deriving Repr, Inhabited

/-- An option with the name of its constraint if it has one. -/
structure NamedOption where
  name : Option Ident := none
  option : ColumnOption
deriving Repr, Inhabited

/-- A column as it is declared. -/
structure ColumnDef where
  name : Ident
  type : DataType
  collation : Option ObjectName := none
  options : List NamedOption := []
deriving Repr, Inhabited

/-- A constraint of a table. -/
inductive TableConstraint
  | primaryKey (name : Option Ident) (columns : List Ident)
  | foreignKey (name : Option Ident) (columns : List Ident) (reference : Reference)
  | unique (name : Option Ident) (columns : List Ident)
  | check (name : Option Ident) (e : Expr)
  | index (name : Option Ident) (columns : List Ident)
deriving Repr, Inhabited

/-- A statement that creates a table. -/
structure CreateTable where
  name : ObjectName
  columns : List ColumnDef := []
  constraints : List TableConstraint := []
deriving Repr, Inhabited

/-- A statement. -/
inductive Statement
  | createTable (create : CreateTable)
  /-- The question how another statement is run, or what is known of a table. -/
  | plan
  | other
deriving Repr, Inhabited

/-! ### Texts of the options -/

/-- An action in words. -/
def ReferentialAction.render : ReferentialAction → String
  | .restrict => "RESTRICT"
  | .cascade => "CASCADE"
  | .setNull => "SET NULL"
  | .noAction => "NO ACTION"
  | .setDefault => "SET DEFAULT"

/-- What is said about the timing, each with a blank before it. -/
def Timing.render (t : Timing) : String :=
  let word (said : Option Bool) (yes no : String) : String :=
    match said with
    | some true => " " ++ yes
    | some false => " " ++ no
    | none => ""
  word t.deferrable "DEFERRABLE" "NOT DEFERRABLE"
    ++ word t.initiallyDeferred "INITIALLY DEFERRED" "INITIALLY IMMEDIATE"
    ++ word t.enforced "ENFORCED" "NOT ENFORCED"

/-- A reference in words. -/
def Reference.render (r : Reference) : String :=
  "REFERENCES " ++ r.table.render
    ++ (if r.columns.isEmpty then "" else " (" ++ renderIdents r.columns ++ ")")
    ++ (r.onDelete.map fun a => " ON DELETE " ++ a.render).getD ""
    ++ (r.onUpdate.map fun a => " ON UPDATE " ++ a.render).getD ""
    ++ r.timing.render

/-- How values are kept, with a blank before it. -/
def Keeping.render : Keeping → String
  | .unstated => ""
  | .stored => " STORED"
  | .computed => " VIRTUAL"

/-- When a value is generated, in words. -/
def GenerationTime.render : GenerationTime → String
  | .always => "ALWAYS"
  | .byDefault => "BY DEFAULT"

/-- An option as it is written. -/
def ColumnOption.render : ColumnOption → String
  | notNull => "NOT NULL"
  | null => "NULL"
  | default e => "DEFAULT " ++ e.render
  | onUpdate e => "ON UPDATE " ++ e.render
  | primaryKey timing => "PRIMARY KEY" ++ timing.render
  | unique timing => "UNIQUE" ++ timing.render
  | references reference => reference.render
  | check e => "CHECK (" ++ e.render ++ ")"
  | comment text => "COMMENT " ++ singleQuoted text
  | characterSet name => "CHARACTER SET " ++ name.render
  | identity time sequence =>
    "GENERATED " ++ time.render ++ " AS IDENTITY"
      ++ (if sequence.isEmpty then "" else " ( " ++ (Expr.words sequence).render ++ " )")
  | computed always e keeping =>
    (if always then "GENERATED ALWAYS AS (" else "AS (") ++ e.render ++ ")" ++ keeping.render
  | derived word e => (Expr.words (.verbatim word :: e.toList)).render
  | onConflict action => "ON CONFLICT " ++ action
  | words s => s

/-- An option with the name of its constraint. -/
def NamedOption.render (o : NamedOption) : String :=
  (o.name.map fun name => "CONSTRAINT " ++ name.render ++ " ").getD "" ++ o.option.render

end TableGraph.Sql
