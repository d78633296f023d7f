/-
The types of columns, and how they are written.

A type that is known by its keyword is written with that keyword in capitals and with one
way of spacing; any other word names a type of the user's, and is written as it stands.
-/
import TableGraph.Sql.Name

namespace TableGraph.Sql

/-- What the length of a text is counted in, if that is said. -/
inductive LengthUnit
  | unstated
  | characters
  | octets
deriving Repr, DecidableEq, Inhabited

/-- How long a text of a type may be. -/
inductive TextLength
  | count (n : Nat) (unit : LengthUnit)
  | max
deriving Repr, DecidableEq, Inhabited

/-- How precise a number of a type is. -/
inductive Precision
  | unlimited
  | digits (n : Nat)
  | scaled (digits scale : Nat)
deriving Repr, DecidableEq, Inhabited

/-- What a type of times says about their zone. -/
inductive Zone
  | unstated
  | without
  | withZone
deriving Repr, DecidableEq, Inhabited

/-- A value that a type allows, with its number if it has one. -/
structure Member where
  name : String
  number : Option String := none
deriving Repr, DecidableEq, Inhabited

/-- The type of a column. -/
inductive DataType
  /-- No type is written. -/
  | unspecified
  /-- A keyword, with a length or without one. -/
  | sized (keyword : String) (length : Option Nat)
  /-- A whole number without a sign. -/
  | unsigned (keyword : String) (length : Option Nat)
  | text (keyword : String) (length : Option TextLength)
  | exact (keyword : String) (precision : Precision)
  | time (keyword : String) (precision : Option Nat) (zone : Zone)
  /-- A keyword with the values that are allowed. -/
  | choice (keyword : String) (members : List Member)
  | custom (name : ObjectName) (arguments : List String)
  /-- An array that is written with its element's type in angles. -/
  | arrayOf (element : DataType)
  /-- An array that is written with brackets after its element's type. -/
  | array (element : DataType) (size : Option Nat)
  /-- A type that is made of fields or of other types, as it is written. -/
  | compound (s : String)
deriving Repr, DecidableEq, Inhabited

/-- An optional number in parentheses. -/
def renderLength (length : Option Nat) : String :=
  match length with
  | some n => "(" ++ toString n ++ ")"
  | none => ""

/-- A unit after its number. -/
def LengthUnit.render : LengthUnit → String
  | .unstated => ""
  | .characters => " CHARACTERS"
  | .octets => " OCTETS"

/-- A length in parentheses. -/
def TextLength.render : TextLength → String
  | .count n unit => "(" ++ toString n ++ unit.render ++ ")"
  | .max => "(MAX)"

/-- A precision in parentheses, without a blank. -/
def Precision.render : Precision → String
  | .unlimited => ""
  | .digits n => "(" ++ toString n ++ ")"
  | .scaled n scale => "(" ++ toString n ++ "," ++ toString scale ++ ")"

/-- A zone after its type. -/
def Zone.render : Zone → String
  | .unstated => ""
  | .without => " WITHOUT TIME ZONE"
  | .withZone => " WITH TIME ZONE"

/-- A value in quotes, and its number. -/
def Member.render (m : Member) : String :=
  singleQuoted m.name ++ (m.number.map (" = " ++ ·)).getD ""

namespace DataType

/-- A type as it is written. -/
def render : DataType → String
  | unspecified => ""
  | sized keyword length => keyword ++ renderLength length
  | unsigned keyword length => keyword ++ renderLength length ++ " UNSIGNED"
  | text keyword length => keyword ++ (length.map TextLength.render).getD ""
  | exact keyword precision => keyword ++ precision.render
  | time keyword precision zone => keyword ++ renderLength precision ++ zone.render
  | choice keyword members => keyword ++ "(" ++ ", ".intercalate (members.map Member.render) ++ ")"
  | custom name arguments =>
    name.render ++ (if arguments.isEmpty then "" else "(" ++ ", ".intercalate arguments ++ ")")
  | arrayOf element => "ARRAY<" ++ element.render ++ ">"
  | array element size => element.render ++ "[" ++ (size.map toString).getD "" ++ "]"
  | compound s => s

end DataType

end TableGraph.Sql
