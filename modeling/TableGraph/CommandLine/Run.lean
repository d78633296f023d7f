/-
Running the command.

A script is read, analysed and written in the form that is asked for.  What goes to the
standard output ends in a line feed; a file gets the text alone.  An error in the
arguments or in the script has the exit code 2, and any other the exit code 1.
-/
import TableGraph.Analysis
import TableGraph.CommandLine.Arguments
import TableGraph.CommandLine.Files
import TableGraph.Graph.Query

namespace TableGraph.CommandLine

/-- The name and the version of the command. -/
def versionLine : String := "ddlgraph 0.1.0"

/-- How a run ends. -/
structure Outcome where
  code : Nat
  stdout : String
  /-- The lines for the standard error output. -/
  stderr : List String
deriving Repr, DecidableEq

namespace Outcome

/-- The run ends well, with this text for the standard output. -/
def success (stdout : String) : Outcome := ⟨0, stdout, []⟩

/-- The run ends in an error. -/
def failure (code : Nat) (text : String) : Outcome := ⟨code, "", ("Error: " ++ text).splitOn "\n"⟩

/-- The arguments are wrong. -/
def usage (e : UsageError) : Outcome := ⟨2, "", ("error: " ++ e.message).splitOn "\n"⟩

end Outcome

/-- A JSON value in the form that is asked for. -/
def Request.write (r : Request) (j : Json) : String := if r.compact then j.compact else j.indented

/-- The analysis that is asked for. -/
def Request.analyze (r : Request) (source : String) : Except AnalysisError Analysis := do
  let a ← Analysis.ofText r.dialect r.statistics source
  return if r.layout then a.layOut { Layout.standard with direction := r.direction } else a

/-- What is written about an analysis. -/
def Request.render (r : Request) (a : Analysis) : String :=
  match r.view with
  | .graph => r.write a.toJson
  | .ddl => ddlScript a.schema.tables
  | .search term => r.write (.list Node.toJson (a.graph.search term))
  | .neighbors table => r.write (.list Node.toJson (a.graph.neighbors table))

/-- An error of the analysis with its causes, each after what it is the cause of. -/
def errorChain (e : AnalysisError) : String :=
  match e with
  | .sql cause => e.message ++ ": " ++ AnalysisError.cause cause
  | _ => e.message

/-- The end of a run in which the analysis fails. -/
def Outcome.ofError (e : AnalysisError) : Outcome :=
  .failure (if e.isInput then 2 else 1) (errorChain e)

/-- The text that the bytes are. -/
def decode (bytes : ByteArray) : Except FileFault String :=
  match String.fromUTF8? bytes with
  | some text => .ok text
  | none => .error .notText

section

variable {m : Type → Type} [Monad m]

/-- The text of the input, or what is to be said about it. -/
def readSource (s : Surroundings m) (name : String) : m (Except String String) := do
  let failed (what : String) (e : FileFault) : String :=
    "Failed to read " ++ what ++ ": " ++ e.message
  if name == standardInput then
    return (decode (← s.readInput)).mapError (failed "stdin")
  else
    return ((← s.readFile name).bind decode).mapError (failed name)

/-- Hands out a text, to a file or to the standard output. -/
def deliver (s : Surroundings m) (output : Option String) (text : String) : m Outcome := do
  match output with
  | none => return .success (text ++ "\n")
  | some name =>
    match ← s.writeFile name text with
    | .ok () => return .success ""
    | .error e => return .failure 1 ("Failed to write " ++ name ++ ": " ++ e.message)

/-- Does what is asked for. -/
def Request.run (s : Surroundings m) (r : Request) : m Outcome := do
  match ← readSource s r.input with
  | .error text => return .failure 1 text
  | .ok source =>
    match r.analyze source with
    | .error e => return .ofError e
    | .ok a => deliver s r.output (r.render a)

/-- Runs the command with these arguments. -/
def execute (s : Surroundings m) (arguments : List String) : m Outcome :=
  match parseArguments arguments with
  | .error e => return .usage e
  | .ok .version => return .success (versionLine ++ "\n")
  | .ok (.run r) => r.run s

end

end TableGraph.CommandLine
