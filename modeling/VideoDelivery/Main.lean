import VideoDelivery.CommandLine.Command

/-!
# The program

Reads the files that the arguments name, runs the command and prints what it leaves behind.
-/

open VideoDelivery CommandLine

/-- The content of a file, or why there is none. -/
def readFile (path : String) : IO (Except FileFault String) := do
  try
    return .ok (← IO.FS.readFile path)
  catch
    | .noFileOrDirectory .. => return .error .missing
    -- the system tells a folder from a file on the way by the number of the error
    | .inappropriateType _ number _ =>
      return .error (if number = 21 then .isFolder else .notFolder)
    | .permissionDenied .. => return .error .forbidden
    | e => return .error (.other (toString e))

def main (args : List String) : IO UInt32 := do
  let paths := ((Command.ofArguments? args).map Command.paths).getD []
  let contents ← paths.mapM fun path => return (path, ← readFile path)
  let outcome := CommandLine.execute args fun path =>
    (contents.lookup path).getD (.error .missing)
  IO.print outcome.stdout
  IO.eprint outcome.stderr
  return outcome.exit.toUInt32
