import EditScript.Context
import EditScript.Live
import EditScript.Log
import EditScript.Sequence

/-!
# Session

One buffer with its queue and its log. A session is a value; an operation gives the session after
it, together with what it answers and what it announces.

* `Session.InPlace`: an operation that may be refused. It works on the session in place, step by
  step, and nothing is taken back when it is refused.
* `Session.executeLine`, `Session.executeText`, `Session.runPending`: run commands and commit
  what comes of them.
* `Session.acceptReply`: queues the lines that the assistant sent.
* `Session.Operation`, `Session.perform`: every operation as a value, and what it does, so that
  a run of a session is a list.
-/

namespace EditScript

/-- Why an operation is refused. -/
inductive SessionError where
  /-- No queued line has the id. -/
  | lineNotFound (id : LineId)
  /-- The cursor or the selection does not fit the buffer. -/
  | buffer (error : BufferError)
  deriving DecidableEq

/-- What the user reads about the error. -/
def SessionError.message : SessionError → String
  | lineNotFound id => s!"Command line not found: {id.display}"
  | buffer error => s!"Buffer error: {error.message}"

/-- One buffer, its queue and its log. -/
structure Session where
  /-- The state that commands are run against. -/
  state : State
  /-- The queued lines. -/
  queue : Queue
  /-- What happened. -/
  log : Log
  /-- The settings that the session was opened with. -/
  settings : Settings
  /-- The number of lines made so far; the next one is made under this number. -/
  made : Nat

namespace Session

/-- A session after an operation, with the events that announce it. -/
structure Step (α : Type) where
  /-- What the operation answers. -/
  answer : α
  /-- The session afterwards. -/
  session : Session
  /-- What the operation announces, in order. -/
  events : List Event

/-- A session over a buffer, with nothing queued. -/
def start (content : Buffer) (settings : Settings) : Session where
  state := .ofBuffer content
  queue := .empty
  log := .ofCapacity settings.session.logCapacity
  settings := settings
  made := 0

/-- The live state as the assistant reads it. -/
def context (s : Session) : Text := s.state.context s.settings.render

/-- Announces the buffer if the state is another one. -/
def changeEvents (before after : State) : List Event :=
  if after = before then [] else [.bufferChanged]

/-- Puts another state in place of the live one. -/
def setState (s : Session) (state : State) : Step Unit :=
  ⟨(), { s with state := state }, [.bufferChanged]⟩

/-- Queues a line. -/
def enqueue (s : Session) (text : Text) : Step LineId :=
  ⟨.made s.made, { s with queue := s.queue.push s.made text, made := s.made + 1 },
    [.queueChanged]⟩

/-- The log entry for a line that was run. -/
def commandEntry (text : Text) (outcome : Outcome) : Log.Entry :=
  ⟨.command, outcome.success, s!"{String.ofList (Text.trim text)}: {outcome.message}"⟩

/-- Commits the outcome of a line: logs it and makes the change. -/
def commit (s : Session) (text : Text) (outcome : Outcome) : Step Unit :=
  let next := outcome.applyTo s.state
  ⟨(), { s with state := next, log := s.log.push (commandEntry text outcome) },
    changeEvents s.state next⟩

/-- Runs a line that is not queued. -/
def executeText (s : Session) (text : Text) : Step Outcome :=
  let outcome := Command.attempt text s.state
  let committed := s.commit text outcome
  ⟨outcome, committed.session, committed.events⟩

/-- Runs all pending lines and commits what comes of them at once. -/
def runPending (s : Session) : Step (List TraceEntry) :=
  match s.queue.pending with
  | [] => ⟨[], s, []⟩
  | pending =>
    let run := Sequence.run pending s.state
    ⟨run.trace,
      { s with
        state := run.final
        queue := s.queue.mark run.attempted
        log := s.log.pushAll (run.trace.map fun e => commandEntry e.text e.outcome) },
      changeEvents s.state run.final ++
        [.queueChanged, .sequenceCommitted run.trace.length run.failures]⟩

/-- Logs an instruction for the assistant. -/
def recordInstruction (s : Session) (instruction : Text) : Step Unit :=
  ⟨(), { s with log := s.log.push ⟨.instruction, true, String.ofList instruction⟩ }, []⟩

/-- Queues the lines that the assistant sent. -/
def acceptReply (s : Session) (texts : List Text) : Step (List LineId) :=
  ⟨(Queue.freshLines s.made texts).map Line.id,
    { s with
      queue := s.queue.extend s.made texts
      log := s.log.push ⟨.assistReply, true, s!"Received {texts.length} commands"⟩
      made := s.made + texts.length },
    if texts.isEmpty then [] else [.queueChanged]⟩

/-- Logs that a request to the assistant failed. -/
def recordAssistFailure (s : Session) (message : String) : Step Unit :=
  ⟨(), { s with log := s.log.push ⟨.assistError, false, message⟩ }, [.assistFailed message]⟩

/-! ## Operations that may be refused -/

/-- An operation that works on a session in place, and may be refused. -/
abbrev InPlace (α : Type) := Live.Change SessionError Session α

/-- Does an operation that is never refused. -/
def does {α : Type} (operation : Session → Step α) : InPlace α := fun live =>
  let step := operation live.value
  .ok step.answer ⟨step.session, live.events ++ step.events⟩

/-- Changes the queue, and gives what comes of that. -/
def changeQueue {α : Type} (f : Queue → α × Queue) : InPlace α :=
  Live.update fun s => ((f s.queue).1, { s with queue := (f s.queue).2 })

/-- Puts the state that comes of the live one in its place. -/
def changeState (f : State → Except BufferError State) : InPlace Unit := do
  let state ← Live.given ((f (← Live.now).state).mapError .buffer)
  does fun s => s.setState state

/-- Moves the cursor. -/
def setCursor (cursor : Nat) : InPlace Unit := changeState fun s => s.withCursor cursor

/-- Selects a range. -/
def setSelection (selection : Selection) : InPlace Unit :=
  changeState fun s => s.withSelection selection

/-- Gives a line another text. -/
def editLine (id : LineId) (text : Text) : InPlace Unit := do
  let found ← changeQueue fun q => q.edit id text
  unless found do throw (.lineNotFound id)
  Live.announce .queueChanged

/-- Puts a new line in the slot of another. -/
def replaceLine (id : LineId) (text : Text) : InPlace LineId := do
  let serial := (← Live.now).made
  let new ← Live.found (.lineNotFound id) (← changeQueue fun q => q.replace id serial text)
  Live.update fun s => ((), { s with made := serial + 1 })
  Live.announce .queueChanged
  return new

/-- Runs one queued line, even if it has been run before. -/
def executeLine (id : LineId) : InPlace Outcome := do
  let s ← Live.now
  let l ← Live.found (.lineNotFound id) (s.queue.find? id)
  let outcome := Command.attempt l.text s.state
  changeQueue fun q => ((), q.mark [id])
  does fun s => s.commit l.text outcome
  Live.announce (.commandExecuted id outcome.success)
  Live.announce .queueChanged
  return outcome

/-! ## All operations -/

/-- What can be done with a session. -/
inductive Operation where
  | setState (state : State)
  | setCursor (cursor : Nat)
  | setSelection (selection : Selection)
  | enqueue (text : Text)
  | editLine (id : LineId) (text : Text)
  | replaceLine (id : LineId) (text : Text)
  | executeLine (id : LineId)
  | executeText (text : Text)
  | runPending
  | recordInstruction (instruction : Text)
  | acceptReply (texts : List Text)
  | recordAssistFailure (message : String)

/-- What an operation answers. -/
inductive Answer where
  /-- There is nothing to tell. -/
  | done
  /-- The id of a new line. -/
  | line (id : LineId)
  /-- The ids of new lines. -/
  | lines (ids : List LineId)
  /-- What came of a line. -/
  | outcome (outcome : Outcome)
  /-- What came of the pending lines. -/
  | trace (trace : List TraceEntry)
  /-- The operation is refused. -/
  | refused (error : SessionError)

/-- A step with another answer. -/
def Step.map {α β : Type} (f : α → β) (step : Step α) : Step β :=
  ⟨f step.answer, step.session, step.events⟩

/-- The step of an operation that was done in place: what it has left, and what it has announced by
the time it ended or was refused. -/
def settle {α : Type} (f : α → Answer) : EStateM.Result SessionError (Live Session) α → Step Answer
  | .ok a live => ⟨f a, live.value, live.events⟩
  | .error error live => ⟨.refused error, live.value, live.events⟩

/-- Does one operation. -/
def perform (s : Session) : Operation → Step Answer
  | .setState state => (s.setState state).map fun _ => .done
  | .setCursor cursor => settle (fun _ => .done) (setCursor cursor ⟨s, []⟩)
  | .setSelection selection => settle (fun _ => .done) (setSelection selection ⟨s, []⟩)
  | .enqueue text => (s.enqueue text).map .line
  | .editLine id text => settle (fun _ => .done) (editLine id text ⟨s, []⟩)
  | .replaceLine id text => settle .line (replaceLine id text ⟨s, []⟩)
  | .executeLine id => settle .outcome (executeLine id ⟨s, []⟩)
  | .executeText text => (s.executeText text).map .outcome
  | .runPending => s.runPending.map .trace
  | .recordInstruction instruction => (s.recordInstruction instruction).map fun _ => .done
  | .acceptReply texts => (s.acceptReply texts).map .lines
  | .recordAssistFailure message => (s.recordAssistFailure message).map fun _ => .done

end Session

end EditScript
