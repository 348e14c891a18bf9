import EditScript.Command.Parser
import EditScript.Outcome
import EditScript.Queue

/-!
# Running lines in sequence

* `Command.attempt`: the outcome of a line, which may be no command at all.
* `Sequence.run`: the pending lines of a list, each run on the state that the one before left. A
  line that fails leaves the state as it is, and the run goes on. Nothing but the result tells of
  the run: neither the lines nor the state they started from change.
-/

namespace EditScript

/-- The outcome of a line in a state. -/
def Command.attempt (line : Text) (s : State) : Outcome :=
  match Command.parse line with
  | .ok command => command.execute s
  | .error error => .rejected error

/-- What a run notes about one line. -/
structure TraceEntry where
  /-- The line that was run. -/
  line : LineId
  /-- The text that it had. -/
  text : Text
  /-- What came of it. -/
  outcome : Outcome
  deriving DecidableEq

/-- What a run of lines gives. -/
structure Sequence where
  /-- One entry for each line that was run, in order. -/
  trace : List TraceEntry
  /-- The state after the last line. -/
  final : State

namespace Sequence

/-- Runs the lines that are pending, in order. -/
def run : List Line → State → Sequence
  | [], s => ⟨[], s⟩
  | l :: rest, s =>
    if l.executed then run rest s
    else
      let outcome := Command.attempt l.text s
      let later := run rest (outcome.applyTo s)
      ⟨⟨l.id, l.text, outcome⟩ :: later.trace, later.final⟩

/-- The ids of the lines that were run. -/
def attempted (r : Sequence) : List LineId := r.trace.map TraceEntry.line

/-- The number of lines that failed. -/
def failures (r : Sequence) : Nat := r.trace.countP fun e => !e.outcome.success

end Sequence

end EditScript
