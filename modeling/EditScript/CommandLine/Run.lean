import EditScript.Assist.Dialogue
import EditScript.Assist.Program
import EditScript.Codec.Document
import EditScript.Codec.Queue
import EditScript.CommandLine.Arguments
import EditScript.Json.Writer

/-!
# The command line

What the program prints, and how it ends, for the arguments that it is given and for what surrounds
it. Nothing is written to any file.

* `CommandLine.Environment`: the files, the programs that can be started, and what is said about
  arguments that are not obeyed.
* `CommandLine.main`: the whole program as a function.
* `CommandLine.runLines`, `CommandLine.stepLines`, `CommandLine.askAssistant`: what the subcommands
  that change a text do. They share `openSession`, and fail for the first of: the settings file, the
  text, the cursor, the script or the reply.
* `CommandLine.Failure.display`: a failure with its causes, the nearest first.
-/

namespace EditScript.CommandLine

/-- What surrounds the program. -/
structure Environment where
  /-- The settings file that is used if the user names none. -/
  settingsFile : Option Text
  /-- What reading a file gives. -/
  read : Files
  /-- What comes of starting a program. -/
  launch : Assist.Program.Launcher
  /-- What is said about arguments that ask for help or make no sense. -/
  explain : Notice → List Text → Text

/-- What surrounds the program if there are only files: no program can be started, and nothing is
said about arguments. -/
def Environment.ofFiles (settingsFile : Option Text) (read : Files) : Environment where
  settingsFile := settingsFile
  read := read
  launch := fun _ _ _ => .error ReadError.notFound.message
  explain := fun _ _ => []

/-- The usual settings file, below the directory for settings or below the home directory. The
first counts only if it is a path from the root. -/
def usualSettings? (settingsHome home : Option Text) : Option Text :=
  let directory :=
    match settingsHome.filter fun path => path.head? = some '/' with
    | some path => some path
    | none => (home.filter (· ≠ [])).map (· ++ "/.config".toList)
  directory.map (· ++ "/scrivener/config.toml".toList)

/-- The files that the program may read. -/
def filesToRead (settingsFile : Option Text) (args : List Text) : List Text :=
  match readArguments args with
  | .ok i => (i.settings.or settingsFile).toList ++ i.subcommand.files
  | .error _ => []

/-- What the program prints. -/
structure Printed where
  /-- The result. -/
  output : Text
  /-- What happened on the way. -/
  trace : Text

/-- Why the program failed. -/
structure Failure where
  /-- What could not be done. -/
  message : String
  /-- What it was caused by, and so on. -/
  causes : List String

/-- How the program ended. -/
structure Exit where
  /-- Zero for success, one for a failure, two for arguments that make no sense. -/
  code : Nat
  /-- What it printed. -/
  output : Text
  /-- What it printed besides. -/
  errors : Text

/-- A cause, with its further lines indented like the first. -/
def indented (first next : Text) (cause : Text) : Text :=
  first ++ (['\n'] ++ next).intercalate (Text.lines cause)

/-- The causes of a failure, each on lines of its own; several causes are numbered. -/
def Failure.causeLines (f : Failure) : List Text :=
  match f.causes with
  | [cause] => [indented "    ".toList "    ".toList cause.toList]
  | causes => causes.zipIdx.map fun c =>
    indented (List.leftpad 5 ' ' (Text.decimal c.2) ++ ": ".toList) "       ".toList c.1.toList

/-- The failure as the user reads it. -/
def Failure.display (f : Failure) : Text :=
  let head := "Error: ".toList ++ f.message.toList
  let causes := if f.causes.isEmpty then [] else ["\nCaused by:".toList] ++ f.causeLines
  (head :: causes).flatMap fun line => line ++ ['\n']

/-- The text of a file, or the failure that names it. -/
def readFile (env : Environment) (what : String) (path : Text) : Except Failure Text :=
  match readText (env.read path) with
  | .ok t => .ok t
  | .error e => .error ⟨s!"Failed to read {what}{String.ofList path}", [e.message]⟩

/-- The causes of an error in a settings file. -/
def settingsCauses (e : Settings.LoadError) : List String :=
  match e with
  | .io cause => [e.message, cause.message]
  | .parse => [e.message, "not a settings document"]

/-- The settings of the file that the user names; otherwise those of the usual file, or the
defaults if that one is missing or broken. -/
def loadSettings (env : Environment) : Option Text → Except Failure Settings
  | some path =>
    match Settings.load (env.read path) with
    | .ok s => .ok s
    | .error e =>
      .error ⟨s!"Failed to load config from {String.ofList path}", settingsCauses e⟩
  | none =>
    match env.settingsFile with
    | some path => .ok ((Settings.load (env.read path)).toOption.getD {})
    | none => .ok {}

/-- A session over a text with the cursor at an offset. -/
def startSession (text : Text) (cursor : Nat) (settings : Settings) : Except Failure Session :=
  match Session.setCursor cursor ⟨Session.start ⟨text⟩ settings, []⟩ with
  | .ok () live => .ok live.value
  | .error e _ =>
    let cause := match e with
      | .buffer b => [b.message]
      | .lineNotFound _ => []
    .error ⟨s!"Invalid cursor offset {cursor}", e.message :: cause⟩

/-- A session over the text of a file. -/
def openSession (env : Environment) (file : Text) (cursor : Nat) (settings : Settings) :
    Except Failure Session := do
  startSession (← readFile env "" file) cursor settings

/-- The command lines of a script file. -/
def readScript (env : Environment) (path : Text) : Except Failure (List Text) := do
  return Script.lines (← readFile env "script " path)

/-- What is printed about a line that was run: a mark that tells how it went, the line without the
blanks around it, and the message. -/
def traceLine (e : TraceEntry) : Text :=
  let mark := if e.outcome.success then "✓" else "✗"
  s!"{mark} {String.ofList (Text.trim e.text)}: {e.outcome.message}\n".toList

/-- What is printed when a text has been changed. -/
def printed (s : Session) (trace : Text) : Printed := ⟨s.state.content.chars, trace⟩

/-- Queues all lines and runs them at once. -/
def runLines (s : Session) (lines : List Text) (trace json : Bool) : Printed :=
  let done := (s.acceptReply lines).session.runPending
  if json then
    let report := (Sequence.report ⟨done.answer, done.session.state⟩).sorted
    ⟨report.pretty ++ ['\n'], []⟩
  else printed done.session (if trace then done.answer.flatMap traceLine else [])

/-- Queues and runs one line after the other, and gives what is printed on the way: after each line,
the last entry of the log. -/
def stepEach : List Text → Session.InPlace Text
  | [] => return []
  | line :: rest => do
    let id ← Session.does fun s => s.enqueue line
    let _ ← Session.executeLine id
    let last := (← Live.now).log.entries.getLast?
    let later ← stepEach rest
    return last.elim [] (fun e => e.display.toList ++ ['\n']) ++ later

/-- Queues and runs one line after the other, and shows what they lead to. -/
def stepLines (s : Session) (lines : List Text) : Except SessionError Printed :=
  match stepEach lines ⟨s, []⟩ with
  | .ok trace live => .ok (printed live.value trace)
  | .error e _ => .error e

/-- Asks the assistant and waits for what comes back. A reply that is there stands for a transport
that gives this one reply. -/
def askAssistant (launch : Assist.Program.Launcher) (s : Session) (assist : Settings.Assist)
    (instruction : Text) (reply : Option Text) : Except Assist.Error (Session × List Text) :=
  match reply with
  | some text => do
    match Dialogue.send instruction ⟨.start s (.scripted [⟨true, some text, none⟩]), []⟩ with
    | .ok task ⟨d, _⟩ =>
      match (d.desk.finish d.assistant task).result? task with
      | some result => return (d.session, ← result)
      | none => throw .cancelled
    | .error e _ => throw e
  | none => do
    let assistant := Assist.Assistant.ofSettings assist
    let s := (s.recordInstruction instruction).session
    let request := Assist.Request.build assistant.systemPrompt s.context instruction
    return (s, ← assistant.read (Assist.Program.sendWithin launch assist request))

/-- Queues the lines of the assistant; runs them, or only shows them. -/
def acceptLines (s : Session) (lines : List Text) (dryRun : Bool) : Printed :=
  if dryRun then
    ⟨(s.acceptReply lines).session.queue.pending.flatMap fun l => l.text ++ ['\n'], []⟩
  else runLines s lines true false

/-- The failure of a request. -/
def askFailure (e : Assist.Error) : Failure :=
  match e with
  | .notStarted _ cause => ⟨"Assistant request failed", [e.message, cause]⟩
  | .io cause => ⟨"Assistant request failed", [e.message, cause]⟩
  | .json => ⟨"Assistant request failed", [e.message, "not a reply"]⟩
  | _ => ⟨"Assistant request failed", [e.message]⟩

/-- Does what the user asks for. -/
def perform (env : Environment) (settings : Settings) : Subcommand → Except Failure Printed
  | .run file script cursor trace json => do
    let s ← openSession env file cursor settings
    return runLines s (← readScript env script) trace json
  | .step file script cursor => do
    let s ← openSession env file cursor settings
    (stepLines s (← readScript env script)).mapError fun e => ⟨e.message, []⟩
  | .context file cursor => do
    let s ← openSession env file cursor settings
    return ⟨s.context, []⟩
  | .ask file instruction cursor dryRun replay => do
    let s ← openSession env file cursor settings
    let reply ← replay.mapM (readFile env "reply ")
    if reply.isNone ∧ settings.assist.command.isNone then
      throw ⟨Assist.Error.notConfigured.message, []⟩
    let (s, lines) ←
      (askAssistant env.launch s settings.assist instruction reply).mapError askFailure
    return acceptLines s lines dryRun
  | .defaultSettings => return ⟨(Settings.write? {}).getD [], []⟩

/-- Loads the settings and does what the user asks for. -/
def invoke (env : Environment) (i : Invocation) : Except Failure Printed := do
  perform env (← loadSettings env i.settings) i.subcommand

/-- The version of the program. -/
def versionLine : Text := "scrivener 0.1.0\n".toList

/-- The whole program. -/
def main (env : Environment) (args : List Text) : Exit :=
  match readArguments args with
  | .error .version => ⟨0, versionLine, []⟩
  | .error .help => ⟨0, env.explain .help args, []⟩
  | .error .usage => ⟨2, [], env.explain .usage args⟩
  | .ok i =>
    match invoke env i with
    | .ok p => ⟨0, p.output, p.trace⟩
    | .error f => ⟨1, [], f.display⟩

end EditScript.CommandLine
