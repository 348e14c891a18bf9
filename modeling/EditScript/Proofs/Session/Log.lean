import EditScript.Proofs.Log
import EditScript.Proofs.Session.History

/-!
# The log is the end of the history

* `Session.Tells`: the entries that an operation adds to the history, said case by case, with what
  the operation answered.
* `Session.Effect.tells`: what an operation appends to the log is what it adds to the history.
* `Session.log_is_end_of_history`: the log of a session that a run reaches.
-/

namespace EditScript
namespace Session

/-- The operation has nothing to do with commands nor with the assistant. -/
def Operation.isSilent : Operation → Bool
  | .setState _ | .setCursor _ | .setSelection _ | .enqueue _ | .editLine _ _
  | .replaceLine _ _ => true
  | .executeLine _ | .executeText _ | .runPending | .recordInstruction _ | .acceptReply _
  | .recordAssistFailure _ => false

/-- The entry for a command: whether it succeeded, its text without the blanks around it, and the
message of its outcome. -/
def outcomeEntry (text : Text) (o : Outcome) : Log.Entry where
  kind := .command
  success := o.success
  message := String.ofList (Text.trim text) ++ ": " ++ o.message

/-- What an operation adds to the history of a session, as it answers. -/
inductive Tells (s : Session) : Operation → Answer → List Log.Entry → Prop
  | line {id : LineId} {l : Line} {o : Outcome} (h : s.queue.find? id = some l)
      (ho : Command.attempt l.text s.state = o) :
      Tells s (.executeLine id) (.outcome o) [outcomeEntry l.text o]
  | noLine {id : LineId} (h : s.queue.find? id = none) :
      Tells s (.executeLine id) (.refused (.lineNotFound id)) []
  | text {text : Text} {o : Outcome} (ho : Command.attempt text s.state = o) :
      Tells s (.executeText text) (.outcome o) [outcomeEntry text o]
  | sequence {trace : List TraceEntry} (h : (Sequence.run s.queue.pending s.state).trace = trace) :
      Tells s .runPending (.trace trace) (trace.map fun e => outcomeEntry e.text e.outcome)
  | instruction (instruction : Text) :
      Tells s (.recordInstruction instruction) .done
        [⟨.instruction, true, String.ofList instruction⟩]
  | reply {texts : List Text} {ids : List LineId} (h : ids.length = texts.length) :
      Tells s (.acceptReply texts) (.lines ids)
        [⟨.assistReply, true, s!"Received {texts.length} commands"⟩]
  | assistFailure (message : String) :
      Tells s (.recordAssistFailure message) .done [⟨.assistError, false, message⟩]
  | silent {op : Operation} {answer : Answer} (hop : op.isSilent = true) : Tells s op answer []

variable {s : Session} {op : Operation} {step : Step Answer}

/-- **What an operation appends to the log** is what it adds to the history. -/
theorem Effect.tells (he : Effect s op step) :
    Tells s op step.answer (s.entries op step.answer) := by
  cases he with
  | setState | setCursor | cursorRefused | setSelection | selectionRefused | enqueue | editLine
  | replaceLine => exact .silent rfl
  | @executeLine id l o h ho =>
    have hentries : s.entries (.executeLine id) (.outcome o) = [outcomeEntry l.text o] :=
      entries_executeLine h o
    exact hentries ▸ .line h ho
  | @lineNotFound op id hop h =>
    cases op with
    | executeLine i =>
      cases hop
      exact .noLine h
    | editLine | replaceLine => exact .silent rfl
    | _ => cases hop
  | executeText ho => exact .text ho
  | @runPending run _ hr =>
    have hentries : s.entries .runPending (.trace run.trace) =
        run.trace.map fun e => outcomeEntry e.text e.outcome := List.map_map
    exact hentries ▸ .sequence (congrArg Sequence.trace hr)
  | nothingPending h =>
    have hnone : (Sequence.run s.queue.pending s.state).trace = [] := by
      rw [h]
      rfl
    exact .sequence hnone
  | recordInstruction instruction => exact .instruction instruction
  | acceptReply texts =>
    refine .reply ?_
    rw [Queue.freshLines_ids, List.length_map, List.length_range']
  | recordAssistFailure message => exact .assistFailure message

/-- **The log is the end of the history.** For every capacity, the log of a session that a run
reaches holds the last entries of all that the run told, as many as it has room for, and it always
has room for one. The history starts empty. An operation adds to it one entry for each command that
it attempts, in the order in which it attempts them, one entry if it passes something between the
session and the assistant, and nothing else. -/
theorem log_is_end_of_history (content : Buffer) (settings : Settings) (ops : List Operation) :
    let first := start content settings
    let s := (first.performAll ops).session
    s.log.entries = (first.told ops).rtake (max 1 settings.session.logCapacity) ∧
      first.told [] = [] ∧
      ∀ op, ∃ new, first.told (ops ++ [op]) = first.told ops ++ new ∧
        Tells s op (s.perform op).answer new := by
  intro first s
  refine ⟨?_, rfl, fun op => ⟨s.entries op (s.perform op).answer, ?_, (perform_effect s op).tells⟩⟩
  · have hlog : s.log = (Log.ofCapacity settings.session.logCapacity).pushAll (first.told ops) :=
      log_performAll first ops
    rw [hlog, Log.entries_pushAll (Log.bounded_ofCapacity _), Nat.max_comm]
    rfl
  · rw [told_append]
    exact congrArg (first.told ops ++ ·) (List.append_nil _)

end Session
end EditScript
