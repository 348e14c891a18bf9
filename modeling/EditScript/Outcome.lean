import EditScript.Buffer.State
import EditScript.Command.Basic

/-!
# Outcome

What one attempt at a command gives: a value that describes the change and leaves it to the
caller to make it.

* `Command.execute`: the outcome of a command in a state. It reads the state and changes
  nothing.
* `Outcome.applyTo`: the state after an outcome. An outcome with an error changes nothing, and
  neither does one whose parts do not fit together.

| command | cursor | selection | content |
|---|---|---|---|
| `MOVE p` | `p` | none, at `p` | |
| `SELECT s e` | | `s` to `e` | |
| `INSERT t` | after `t` | none, after `t` | selection, or nothing, becomes `t` |
| `DELETE` | where the removed text began | none, there | selection, or one character, goes |
-/

namespace EditScript

/-- What came of an attempt. The last three parts are absent where nothing changes. -/
structure Outcome where
  /-- The command; absent if the line is none. -/
  command : Option Command
  /-- What the user reads about the attempt. -/
  message : String
  /-- Why the attempt failed, if it did. -/
  error : Option CommandError
  /-- The new content. -/
  content : Option Buffer
  /-- The new cursor. -/
  cursor : Option Nat
  /-- The new selection. -/
  selection : Option Selection
  deriving DecidableEq

namespace Outcome

/-- The outcome of an attempt that failed. -/
def failure (command : Option Command) (error : CommandError) : Outcome :=
  ⟨command, error.message, some error, none, none, none⟩

/-- The outcome of a line that is no command. -/
def rejected (error : CommandError) : Outcome := failure none error

/-- The attempt succeeded. -/
def success (o : Outcome) : Bool := o.error.isNone

/-- The state after the outcome. Parts that the outcome does not carry are those of the state;
if the parts together break a bound, the state is kept. -/
def applyTo (o : Outcome) (s : State) : State :=
  if o.success then
    match State.ofParts (o.content.getD s.content) (o.cursor.getD s.cursor)
      (o.selection.getD s.selection) with
    | .ok next => next
    | .error _ => s
  else s

end Outcome

namespace Command

/-- The outcome of `MOVE`. -/
def executeMove (s : State) (position : Nat) : Except CommandError Outcome :=
  if s.length < position then .error (.positionOutOfRange position s.length)
  else .ok {
    command := some (.move position)
    message := s!"Moved cursor to {position}"
    error := none
    content := none
    cursor := some position
    selection := some (.caret position) }

/-- The outcome of `SELECT`. -/
def executeSelect (s : State) (start stop : Nat) : Except CommandError Outcome :=
  if stop < start ∨ s.length < stop then .error (.invalidRange start stop s.length)
  else .ok {
    command := some (.select start stop)
    message := s!"Selected {start}-{stop}"
    error := none
    content := none
    cursor := none
    selection := some ⟨start, stop⟩ }

/-- The outcome of an edit that leaves the cursor at an offset. -/
def edited (command : Command) (message : String) (content : Buffer) (cursor : Nat) :
    Outcome where
  command := some command
  message := message
  error := none
  content := some content
  cursor := some cursor
  selection := some (.caret cursor)

/-- The outcome of `INSERT`. -/
def executeInsert (s : State) (text : Text) : Except CommandError Outcome :=
  if s.hasSelection then do
    let (_, content) ← (s.content.replace s.selection.start s.selection.stop text).mapError .buffer
    return edited (.insert text)
      s!"Replaced {s.selection.display} with {text.length} chars"
      content (s.selection.start + text.length)
  else do
    let content ← (s.content.insert s.cursor text).mapError .buffer
    return edited (.insert text) s!"Inserted {text.length} chars at {s.cursor}"
      content (s.cursor + text.length)

/-- The outcome of `DELETE`. -/
def executeDelete (s : State) : Except CommandError Outcome :=
  if s.hasSelection then do
    let (_, content) ← (s.content.delete s.selection.start s.selection.stop).mapError .buffer
    return edited .delete s!"Deleted {s.selection.display}" content s.selection.start
  else
    match s.cursor with
    | 0 => .error .nothingToDelete
    | before + 1 => do
      let (_, content) ← (s.content.delete before (before + 1)).mapError .buffer
      return edited .delete s!"Deleted character at {before}" content before

/-- The outcome of a command in a state. -/
def execute (c : Command) (s : State) : Outcome :=
  let attempt :=
    match c with
    | move position => executeMove s position
    | select start stop => executeSelect s start stop
    | insert text => executeInsert s text
    | delete => executeDelete s
  match attempt with
  | .ok outcome => outcome
  | .error error => .failure (some c) error

end Command

end EditScript
