/-
The files that the command reads and writes.

What the command needs of its surroundings is a record of actions, so the command can be
run on a real disk, or on a folder that is a value.

A path is followed step by step, and the first step that cannot be taken is the fault: a
file has nothing in it, what is not there cannot be entered, and no name is longer than
255 bytes.  Only the last step may lead to a file that is not there, which writing makes.
-/

namespace TableGraph.CommandLine

/-- Why a file cannot be read or written. -/
inductive FileFault
  | notFound
  | notDirectory
  | isDirectory
  | nameTooLong
  /-- The bytes are no text. -/
  | notText
  | other (text : String)
deriving Repr, DecidableEq

/-- A fault in words. -/
def FileFault.message : FileFault → String
  | notFound => "No such file or directory (os error 2)"
  | notDirectory => "Not a directory (os error 20)"
  | isDirectory => "Is a directory (os error 21)"
  | nameTooLong => "File name too long (os error 36)"
  | notText => "stream did not contain valid UTF-8"
  | other text => text

/-- What the command needs of its surroundings. -/
structure Surroundings (m : Type → Type) where
  readInput : m ByteArray
  readFile : String → m (Except FileFault ByteArray)
  writeFile : String → String → m (Except FileFault Unit)

/-- A folder without folders in it, and what is on the standard input. -/
structure Folder where
  input : ByteArray := .empty
  /-- The files by their names. -/
  files : List (String × String) := []

/-- Where a path has led so far. -/
inductive Place
  /-- The folder itself. -/
  | inside
  /-- A folder around it. -/
  | outside
  | file (name : String)
  /-- The folder has no file of this name. -/
  | absent (name : String)
  /-- Nothing is there, and nothing can be made there. -/
  | nowhere
deriving Repr, DecidableEq

namespace Folder

/-- The text of the file of this name. -/
def get? (f : Folder) (name : String) : Option String := f.files.lookup name

/-- Writes a file anew or in place of the one of this name. -/
def put (f : Folder) (name text : String) : Folder :=
  { f with files := (name, text) :: f.files.filter (·.1 != name) }

/-- The steps of a path. -/
def steps (path : String) : List String := (path.splitOn "/").filter (· != "")

/-- Takes one step of a path. -/
def enter (f : Folder) (place : Place) (step : String) : Except FileFault Place :=
  match place with
  | .file _ => .error .notDirectory
  | .absent _ | .nowhere => .error .notFound
  | .inside | .outside =>
    if step == "." then .ok place
    else if step == ".." then .ok .outside
    else if 255 < step.utf8ByteSize then .error .nameTooLong
    else if place = .outside then .ok .nowhere
    else .ok (if (f.get? step).isSome then .file step else .absent step)

/-- Follows the steps of a path. -/
def follow (f : Folder) (path : String) (steps : List String) : Except FileFault Place :=
  if path.isEmpty then .error .notFound
  else if 4096 ≤ path.utf8ByteSize then .error .nameTooLong
  else steps.foldlM f.enter (if path.startsWith "/" then .outside else .inside)

/-- The bytes of the file to which a path leads. -/
def read (f : Folder) (path : String) : Except FileFault ByteArray := do
  match ← f.follow path (steps path) with
  | .inside | .outside => .error .isDirectory
  | .absent _ | .nowhere => .error .notFound
  | .file name =>
    if path.endsWith "/" then .error .notDirectory
    else .ok ((f.get? name).getD "").toUTF8

/-- The path names a folder by its last character, though it may be none. -/
def namesFolder (path : String) : Bool :=
  path.endsWith "/" && (steps path).getLast?.any fun s => s != "." && s != ".."

/-- The folder after a text is written to the file to which a path leads. -/
def write (f : Folder) (path text : String) : Except FileFault Folder := do
  if namesFolder path then
    match ← f.follow path (steps path).dropLast with
    | .inside | .outside => .error .isDirectory
    | .file _ => .error .notDirectory
    | .absent _ | .nowhere => .error .notFound
  else
    match ← f.follow path (steps path) with
    | .inside | .outside => .error .isDirectory
    | .file name | .absent name => return f.put name text
    | .nowhere => .error .notFound

/-- A folder as surroundings. -/
def surroundings : Surroundings (StateM Folder) where
  readInput := return (← get).input
  readFile path := return (← get).read path
  writeFile path text := do
    match (← get).write path text with
    | .ok f => set f; return .ok ()
    | .error e => return .error e

end Folder

end TableGraph.CommandLine
