import EditScript.Assist.Message
import EditScript.Codec.Assist
import EditScript.Json.Reader
import EditScript.Json.Writer
import EditScript.Text.Blank
import EditScript.Text.Utf8

/-!
# Assistants that are programs

The settings may name a program that answers requests: it reads a request as JSON and writes a
reply as JSON. What programs there are and what they do is up to the surroundings.

* `Program.Launcher`: what comes of starting a program.
* `Program.send`: starts the program of the settings and takes its reply.
* `Program.sendWithin`: the same with a limit on the time that it may take. A program that cannot
  be started is reported before the time is looked at.
-/

namespace EditScript.Assist.Program

/-- How a program ended. -/
inductive Status where
  /-- With an exit code. -/
  | exited (code : Nat)
  /-- By a signal, which has a name. -/
  | killed (signal : Nat) (name : String)
  deriving DecidableEq

/-- The status as the user reads it. -/
def Status.display : Status → String
  | exited code => s!"exit status: {code}"
  | killed signal name => s!"signal: {signal} ({name})"

/-- A program that has ended. -/
structure Ended where
  /-- How it ended. -/
  status : Status
  /-- What it has written. -/
  output : Bytes
  /-- What it has complained about. -/
  errors : Bytes

/-- A program that was started. -/
structure Started where
  /-- How long it took, in seconds. -/
  seconds : Nat
  /-- How it ended; or why it could not be given its input, in the words of the operating system. -/
  result : Except String Ended

/-- What comes of starting a program with arguments and an input. The error is what the operating
system says if it cannot be started. -/
abbrev Launcher := Text → List Text → Bytes → Except String Started

/-- What is reported of a program that failed. -/
def failure (command : Text) (e : Ended) : Error :=
  .communication (command ++ " exited with ".toList ++ e.status.display.toList ++ ": ".toList ++
    Text.trim (Text.ofBytesLossy e.errors))

/-- The reply that a program has written. -/
def reply (output : Bytes) : Except Error Reply :=
  match (Text.ofBytes? output).bind fun t => (Json.parse? t).bind Reply.ofJson? with
  | some r => .ok r
  | none => .error .json

/-- The reply of a program that was started. -/
def answer (command : Text) (started : Started) : Except Error Reply := do
  let e ← started.result.mapError .io
  if e.status = .exited 0 then reply e.output else throw (failure command e)

/-- Starts the program of the settings with a request as its input. -/
def start (launch : Launcher) (s : Settings.Assist) (request : Request) :
    Except Error (Text × Started) :=
  match s.command with
  | none => .error .notConfigured
  | some command =>
    match launch command s.args (Text.toBytes request.toJson.compact) with
    | .ok started => .ok (command, started)
    | .error cause => .error (.notStarted command cause)

/-- The reply of the program of the settings to a request. -/
def send (launch : Launcher) (s : Settings.Assist) (request : Request) : Except Error Reply := do
  let (command, started) ← start launch s request
  answer command started

/-- The reply of the program of the settings, if it comes in time. -/
def sendWithin (launch : Launcher) (s : Settings.Assist) (request : Request) :
    Except Error Reply := do
  let (command, started) ← start launch s request
  if s.timeoutSeconds ≤ started.seconds then throw (.timeout s.timeoutSeconds)
  answer command started

end EditScript.Assist.Program
