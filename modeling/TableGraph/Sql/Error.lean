/-
What can be wrong with a script.

Most errors say what was wanted and what was found instead; the end of the script has no
place of its own.  The others are a remark, with a place if one can be pointed at.  What was
wanted is put into words where it is wanted.
-/
import TableGraph.Sql.Token

namespace TableGraph.Sql

/-- Why digits are no number of a given width. -/
inductive NumberFault
  | tooLarge
  | invalidDigit
deriving Repr, DecidableEq, Inhabited

/-- The fault in words. -/
def NumberFault.text : NumberFault → String
  | .tooLarge => "number too large to fit in target type"
  | .invalidDigit => "invalid digit found in string"

/-- What is wrong with a script. -/
inductive SqlError
  /-- Something else was found than what was wanted, or the end of the script. -/
  | unexpected (wanted : String) (found : Option Lexeme)
  /-- The digits are no number of so many bits. -/
  | badNumber (digits : String) (bits : Nat) (fault : NumberFault) (location : Location)
  /-- Anything else, in words. -/
  | remark (text : String) (location : Option Location)
  /-- Expressions, queries and statements stand too deep in each other. -/
  | tooDeep
deriving Repr, DecidableEq, Inhabited

/-- A place in words. -/
def Location.text (l : Location) : String :=
  " at Line: " ++ toString l.line ++ ", Column: " ++ toString l.column

/-- A token that was found, or the end of the script. -/
def foundText : Option Lexeme → String
  | some l => l.token.spelling
  | none => "EOF"

/-- The place of a token, which the end of the script has not. -/
def placeText (location : Option Location) : String :=
  match location with
  | some l => l.text
  | none => ""

/-- An error in words. -/
def SqlError.message : SqlError → String
  | .unexpected wanted found =>
    "Expected: " ++ wanted ++ ", found: " ++ foundText found
      ++ placeText (found.map (·.location))
  | .badNumber digits bits fault l =>
    "Could not parse '" ++ digits ++ "' as u" ++ toString bits ++ ": " ++ fault.text ++ l.text
  | .remark text l => text ++ placeText l
  | .tooDeep => "recursion limit exceeded"

end TableGraph.Sql
