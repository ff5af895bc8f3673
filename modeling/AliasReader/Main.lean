import AliasReader.Command.Run

/-!
# Command Line

The program: it reads the file that its arguments name, runs the command, and prints what
the command leaves.
-/

namespace AliasReader

/-- The contents of a file, or why they cannot be read. -/
def readFile (path : String) : IO (Except FileFailure String) := do
  try
    return .ok (← IO.FS.readFile path)
  catch
    | .noFileOrDirectory .. => return .error .notFound
    -- a directory can be opened, so the failure to read it names no file
    | .inappropriateType none .. => return .error .isDirectory
    | .inappropriateType (some _) .. => return .error .notDirectory
    | .permissionDenied .. => return .error .permissionDenied
    | .userError _ => return .error .notText
    | failure => return .error (.other (toString failure))

end AliasReader

open AliasReader in
/-- Run the command that the arguments ask for. -/
def main (arguments : List String) : IO UInt32 := do
  let contents ← match Command.path? arguments with
    | some path => readFile path
    | none => pure (.error .notFound)
  let terminal ← (← IO.getStderr).isTty
  let result := Command.run arguments terminal fun _ => contents
  IO.print result.stdout
  IO.eprint result.stderr
  return result.code.toUInt32
