import AssignScript.CommandLine.Session
import AssignScript.Pattern

/-!
# The program

Reads the arguments and script files and writes what comes of them. This is where the program is given its library of
regular expressions.
-/

namespace AssignScript

/-- The content of a file, or the reason why it cannot be read. -/
def readScriptFile (path : String) : IO (Except String String) := do
  try
    return .ok (← IO.FS.readFile path)
  catch
    | .noFileOrDirectory .. => return .error "No such file or directory (os error 2)"
    | .inappropriateType .. => return .error "Is a directory (os error 21)"
    | .permissionDenied .. => return .error "Permission denied (os error 13)"
    | e => return .error (toString e)

end AssignScript

open AssignScript in
/-- Runs the command line. -/
def main (args : List String) : IO UInt32 := do
  let outcome ← runArguments readScriptFile args
  IO.print outcome.output
  IO.eprint outcome.errors
  return outcome.code
