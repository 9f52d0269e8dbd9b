import Metasearch.Client
import Metasearch.CommandLine.Program

/-!
# The command line

The outermost layer: it reads the settings file, writes the report, and tells on standard error
what went wrong.
-/

namespace Metasearch.CommandLine

/-- The cause of an error in reading a file. A directory is noticed only when the file is open, and
then the error does not name it. -/
def fileFault : IO.Error → FileFault
  | .permissionDenied .. => .denied
  | .noFileOrDirectory .. => .missing
  | .inappropriateType none .. => .directory
  | .inappropriateType (some _) .. => .notDirectory
  | _ => .notText

/-- The text of a file. -/
def readFile (path : String) : IO (Except FileFault String) := do
  try
    return .ok (← IO.FS.readFile path)
  catch e =>
    return .error (fileFault e)

/-- The text of the settings file that arguments name, if they name one. -/
def readSettings (arguments : List String) : IO (Except FileFault String) :=
  match Invocation.parse arguments with
  | .ok ⟨some path, _⟩ => readFile path
  | _ => return .ok ""

end Metasearch.CommandLine

open Metasearch Metasearch.CommandLine

/-- Runs the program without a network. -/
def main (arguments : List String) : IO UInt32 := do
  let file ← readSettings arguments
  let exit := CommandLine.run (fun _ => file) Server.unreachable arguments
  IO.print exit.output
  if let some failure := exit.failure then
    IO.eprintln ("Error: " ++ failure.message)
  return exit.code.toUInt32
