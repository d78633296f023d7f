/-
The arguments of the command.

Arguments are read one after the other.  An option that takes a value has it attached or
takes the next argument, which must not look like an option; after `--` nothing is an
option any more.  Everything but the verbosity may be given once.  Asking for the version
ends the reading, so what comes after is not looked at.
-/
import TableGraph.Graph.Layered
import TableGraph.Schema.Statistics
import TableGraph.Sql.Dialect

namespace TableGraph.CommandLine

/-- What is written about a script. -/
inductive View
  /-- The tables, the graph and the figures. -/
  | graph
  /-- The statements that create the tables. -/
  | ddl
  /-- The nodes that mention a term. -/
  | search (term : String)
  /-- The node of a table and the nodes linked to it. -/
  | neighbors (table : String)
deriving Repr, DecidableEq

/-- The name that stands for the standard input. -/
def standardInput : String := "-"

/-- What is to be done. -/
structure Request where
  input : String := standardInput
  dialect : Sql.DialectChoice := .auto
  /-- The file to write, instead of the standard output. -/
  output : Option String := none
  /-- The nodes are to be placed. -/
  layout : Bool := false
  direction : Layout.Direction := .leftRight
  compact : Bool := false
  view : View := .graph
  statistics : Statistics.Options := { topConnected := 5, wideColumns := 20 }
deriving Repr, DecidableEq

/-- What the arguments ask for. -/
inductive Command
  | version
  | run (request : Request)
deriving Repr, DecidableEq

/-- An option that takes a value. -/
inductive Setting
  | dialect
  | output
  | direction
  | search
  | neighbors
  | top
  | wideColumns
deriving Repr, DecidableEq

/-- An option that takes none. -/
inductive Switch
  | layout
  | compact
  | ddl
  | verbose
  | version
deriving Repr, DecidableEq

/-- An option of either sort. -/
inductive Flag
  | setting (s : Setting)
  | switch (s : Switch)
deriving Repr, DecidableEq

/-- The options by their long names. -/
def longNames : List (String × Flag) := [
  ("dialect", .setting .dialect), ("output", .setting .output),
  ("direction", .setting .direction), ("search", .setting .search),
  ("neighbors", .setting .neighbors), ("top", .setting .top),
  ("wide-columns", .setting .wideColumns), ("layout", .switch .layout),
  ("compact", .switch .compact), ("ddl", .switch .ddl), ("verbose", .switch .verbose),
  ("version", .switch .version)]

/-- The options by their short names. -/
def shortNames : List (Char × Flag) := [
  ('d', .setting .dialect), ('o', .setting .output), ('v', .switch .verbose),
  ('V', .switch .version)]

/-- What is wrong with the arguments. -/
inductive UsageError
  | unexpected (argument : String)
  | missingValue (s : Setting)
  | valueNotTaken (s : Switch)
  | badValue (s : Setting) (value : String)
  | repeated (f : Flag)
  | repeatedInput
  | conflict (f g : Flag)
deriving Repr, DecidableEq

/-- The long name of an option. -/
def Flag.name (f : Flag) : String := ((longNames.find? (·.2 == f)).map (·.1)).getD ""

/-- A usage error in words. -/
def UsageError.message : UsageError → String
  | unexpected argument => "unexpected argument '" ++ argument ++ "'"
  | missingValue s => "a value is required for '--" ++ (Flag.setting s).name ++ "'"
  | valueNotTaken s => "no value is taken by '--" ++ (Flag.switch s).name ++ "'"
  | badValue s value => "invalid value '" ++ value ++ "' for '--" ++ (Flag.setting s).name ++ "'"
  | repeated f => "'--" ++ f.name ++ "' is given more than once"
  | repeatedInput => "more than one input is given"
  | conflict f g => "'--" ++ f.name ++ "' cannot be used with '--" ++ g.name ++ "'"

/-- What has been given so far. -/
structure Given where
  input : Option String := none
  dialect : Option Sql.DialectChoice := none
  output : Option String := none
  direction : Option Layout.Direction := none
  search : Option String := none
  neighbors : Option String := none
  top : Option Nat := none
  wideColumns : Option Nat := none
  layout : Bool := false
  compact : Bool := false
  ddl : Bool := false

/-- Why the reading ends before all arguments are read. -/
inductive Stop
  | version
  | wrong (e : UsageError)

/-- A whole number of 64 bits; a plus sign may stand before its digits. -/
def count? (value : String) : Option Nat :=
  let digits := match value.toList with
    | '+' :: digits => digits
    | digits => digits
  if digits.isEmpty || !digits.all Char.isDigit then none
  else
    let n := digits.foldl (fun n c => 10 * n + (c.toNat - '0'.toNat)) 0
    if n < UInt64.size then some n else none

namespace Given

/-- Keeps a value that may be given once and is read by `read`. -/
def put {α : Type} (s : Setting) (value : String) (old : Option α) (read : String → Option α)
    (keep : α → Given) : Except Stop Given :=
  match read value, old with
  | none, _ => .error (.wrong (.badValue s value))
  | some _, some _ => .error (.wrong (.repeated (.setting s)))
  | some a, none => .ok (keep a)

/-- Gives a setting its value.  The name of a file has at least one character. -/
def set (g : Given) (s : Setting) (value : String) : Except Stop Given :=
  match s with
  | .dialect => put s value g.dialect Sql.DialectChoice.ofName? fun a => { g with dialect := some a }
  | .output =>
    put s value g.output (fun v => if v.isEmpty then none else some v) fun a =>
      { g with output := some a }
  | .direction =>
    put s value g.direction Layout.Direction.ofName? fun a => { g with direction := some a }
  | .search => put s value g.search some fun a => { g with search := some a }
  | .neighbors => put s value g.neighbors some fun a => { g with neighbors := some a }
  | .top => put s value g.top count? fun a => { g with top := some a }
  | .wideColumns => put s value g.wideColumns count? fun a => { g with wideColumns := some a }

/-- Turns a switch on. -/
def turnOn (g : Given) (s : Switch) : Except Stop Given :=
  let once (on : Bool) (new : Given) : Except Stop Given :=
    if on then .error (.wrong (.repeated (.switch s))) else .ok new
  match s with
  | .layout => once g.layout { g with layout := true }
  | .compact => once g.compact { g with compact := true }
  | .ddl => once g.ddl { g with ddl := true }
  | .verbose => .ok g
  | .version => .error .version

/-- Takes the name of the input. -/
def setInput (g : Given) (name : String) : Except Stop Given :=
  match g.input with
  | some _ => .error (.wrong .repeatedInput)
  | none => .ok { g with input := some name }

/-- The view that is asked for; views exclude each other. -/
def view (g : Given) : Except UsageError View :=
  match g.ddl, g.search, g.neighbors with
  | true, some _, _ => .error (.conflict (.switch .ddl) (.setting .search))
  | true, _, some _ => .error (.conflict (.switch .ddl) (.setting .neighbors))
  | _, some _, some _ => .error (.conflict (.setting .search) (.setting .neighbors))
  | true, none, none => .ok .ddl
  | false, some term, none => .ok (.search term)
  | false, none, some table => .ok (.neighbors table)
  | false, none, none => .ok .graph

/-- The request, in which what is not given has its usual value. -/
def request (g : Given) : Except UsageError Request := do
  let view ← g.view
  let usual : Request := {}
  return {
    input := g.input.getD usual.input
    dialect := g.dialect.getD usual.dialect
    output := g.output
    layout := g.layout
    direction := g.direction.getD usual.direction
    compact := g.compact
    view
    statistics := {
      topConnected := g.top.getD usual.statistics.topConnected
      wideColumns := g.wideColumns.getD usual.statistics.wideColumns } }

end Given

/-- The reading of the arguments under way. -/
structure Reading where
  given : Given := {}
  /-- The option whose value has to come next. -/
  pending : Option Setting := none
  /-- Nothing is an option any more. -/
  inputOnly : Bool := false

namespace Reading

/-- Reads short options that stand together; what follows one that takes a value is the
value, after a sign of equality if there is one. -/
def readShort (argument : String) (r : Reading) : List Char → Except Stop Reading
  | [] => .ok r
  | c :: rest =>
    match shortNames.lookup c with
    | none => .error (.wrong (.unexpected argument))
    | some (.switch s) =>
      match r.given.turnOn s with
      | .error e => .error e
      | .ok given => readShort argument { r with given } rest
    | some (.setting s) =>
      match rest with
      | [] => .ok { r with pending := some s }
      | '=' :: value => do return { r with given := ← r.given.set s (String.ofList value) }
      | value => do return { r with given := ← r.given.set s (String.ofList value) }

/-- Reads a long option, with its value if that is attached by a sign of equality. -/
def readLong (argument : String) (r : Reading) (body : List Char) : Except Stop Reading := do
  let name := String.ofList (body.takeWhile (· != '='))
  let attached := body.dropWhile (· != '=')
  match longNames.lookup name, attached with
  | none, _ => .error (.wrong (.unexpected argument))
  | some (.switch s), [] => return { r with given := ← r.given.turnOn s }
  | some (.switch s), _ => .error (.wrong (.valueNotTaken s))
  | some (.setting s), [] => return { r with pending := some s }
  | some (.setting s), _ :: value =>
    return { r with given := ← r.given.set s (String.ofList value) }

/-- Reads an argument. -/
def read (r : Reading) (argument : String) : Except Stop Reading := do
  if r.inputOnly then return { r with given := ← r.given.setInput argument }
  match r.pending, argument.toList with
  | some s, '-' :: _ :: _ => .error (.wrong (.missingValue s))
  | some s, _ => return { r with given := ← r.given.set s argument, pending := none }
  | none, ['-', '-'] => return { r with inputOnly := true }
  | none, '-' :: '-' :: body => readLong argument r body
  | none, '-' :: c :: rest => readShort argument r (c :: rest)
  | none, _ => return { r with given := ← r.given.setInput argument }

end Reading

/-- What the arguments ask for. -/
def parseArguments (arguments : List String) : Except UsageError Command :=
  match arguments.foldlM Reading.read {} with
  | .error .version => .ok .version
  | .error (.wrong e) => .error e
  | .ok r =>
    match r.pending with
    | some s => .error (.missingValue s)
    | none => r.given.request.map .run

end TableGraph.CommandLine
