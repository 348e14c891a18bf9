import EditScript.CommandLine.Run

/-!
# The program

The outer layer of the command line. It reads the files that the arguments name, hands them to
`CommandLine.main`, and prints what comes back. No other program is started from here: a request to
the assistant is answered only if its reply is there in a file.
-/

namespace EditScript.Program

/-- Why a file could not be read. -/
def readError : IO.Error → ReadError
  | .noFileOrDirectory _ _ _ => .notFound
  | .permissionDenied _ _ _ => .denied
  | .inappropriateType _ code _ => if code = 21 then .isDirectory else .notDirectory
  | e => .other (toString e)

/-- The bytes of a file. -/
def readFile (path : Text) : IO (Except ReadError Bytes) := do
  try
    let bytes ← IO.FS.readBinFile (String.ofList path)
    return .ok bytes.toList
  catch e => return .error (readError e)

/-- The value of an environment variable. -/
def environmentText? (name : String) : IO (Option Text) := do
  return (← IO.getEnv name).map String.toList

/-- The files that the arguments name, and where the settings are. -/
def environment (args : List Text) : IO CommandLine.Environment := do
  let settingsHome ← environmentText? "XDG_CONFIG_HOME"
  let settingsFile := CommandLine.usualSettings? settingsHome (← environmentText? "HOME")
  let files ← (CommandLine.filesToRead settingsFile args).mapM fun path => do
    return (path, ← readFile path)
  return .ofFiles settingsFile fun path => (files.lookup path).getD (.error .notFound)

/-- Runs the command line; its result is the exit code. -/
def run (args : List Text) : IO UInt32 := do
  let exit := CommandLine.main (← environment args) args
  IO.eprint (String.ofList exit.errors)
  IO.print (String.ofList exit.output)
  return UInt32.ofNat exit.code

end EditScript.Program

/-- The program. -/
def main (args : List String) : IO UInt32 := EditScript.Program.run (args.map String.toList)
