/-
The command on a real disk.
-/
import TableGraph.CommandLine.Run

namespace TableGraph.CommandLine

/-- A fault of the disk. -/
def FileFault.ofError : IO.Error → FileFault
  | .noFileOrDirectory _ _ _ => .notFound
  | .inappropriateType _ _ _ => .isDirectory
  | e => .other (toString e)

/-- Runs an action of the disk. -/
def attemptFile {α : Type} (action : IO α) : IO (Except FileFault α) := do
  try
    return .ok (← action)
  catch e => return .error (.ofError e)

/-- All bytes of a stream. -/
partial def readAll (stream : IO.FS.Stream) (read : ByteArray) : IO ByteArray := do
  let bytes ← stream.read 65536
  if bytes.isEmpty then return read
  readAll stream (read ++ bytes)

/-- The real disk. -/
def disk : Surroundings IO where
  readInput := do readAll (← IO.getStdin) .empty
  readFile name := attemptFile (IO.FS.readBinFile name)
  writeFile name text := attemptFile (IO.FS.writeFile name text)

end TableGraph.CommandLine

open TableGraph.CommandLine

/-- Runs the command and gives its exit code. -/
def main (arguments : List String) : IO UInt32 := do
  let outcome ← execute disk arguments
  IO.print outcome.stdout
  for line in outcome.stderr do
    IO.eprintln line
  return outcome.code.toUInt32
