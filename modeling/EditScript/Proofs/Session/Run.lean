import EditScript.Proofs.Sequence
import EditScript.Proofs.Session.InPlace

/-!
# Runs of a session

Everything that an operation can do to a session, said once, and what every run keeps.

* `Session.perform_of_find?_eq_none`: an operation on a line that is not there is refused, and
  leaves nothing behind.
* `Session.Effect`, `Session.perform_effect`: the cases of `Session.perform`, each with its
  condition. A proof about all operations is a case analysis of `Session.Effect`. The case that
  applies says all (`Session.Effect.perform_eq`).
* `Session.runPending_answer`, `Session.runPending_session`: a sequence commits what comes of
  running the pending lines and marks them.
* `Session.performAll`: a run, which is a list of operations done one after the other.
* `Session.performAll_keeps`: what every operation keeps holds after every run.
* `Session.numbered_performAll`: the ids in the queue of a session stay distinct.
-/

namespace EditScript
namespace Session

/-- The line that an operation asks for, if it asks for one. -/
def Operation.line? : Operation → Option LineId
  | .editLine id _ | .replaceLine id _ | .executeLine id => some id
  | _ => none

/-- What an operation does to a session: the cases of `Session.perform`. -/
inductive Effect (s : Session) : Operation → Step Answer → Prop
  | setState (state : State) :
      Effect s (.setState state) ⟨.done, { s with state := state }, [.bufferChanged]⟩
  | setCursor {cursor : Nat} {state : State} (h : s.state.withCursor cursor = .ok state) :
      Effect s (.setCursor cursor) ⟨.done, { s with state := state }, [.bufferChanged]⟩
  | cursorRefused {cursor : Nat} {e : BufferError} (h : s.state.withCursor cursor = .error e) :
      Effect s (.setCursor cursor) ⟨.refused (.buffer e), s, []⟩
  | setSelection {selection : Selection} {state : State}
      (h : s.state.withSelection selection = .ok state) :
      Effect s (.setSelection selection) ⟨.done, { s with state := state }, [.bufferChanged]⟩
  | selectionRefused {selection : Selection} {e : BufferError}
      (h : s.state.withSelection selection = .error e) :
      Effect s (.setSelection selection) ⟨.refused (.buffer e), s, []⟩
  | enqueue (text : Text) :
      Effect s (.enqueue text) ⟨.line (.made s.made),
        { s with queue := s.queue.push s.made text, made := s.made + 1 }, [.queueChanged]⟩
  | editLine {id : LineId} {l : Line} (text : Text) (h : s.queue.find? id = some l) :
      Effect s (.editLine id text) ⟨.done, { s with queue := (s.queue.edit id text).2 },
        [.queueChanged]⟩
  | replaceLine {id : LineId} {l : Line} (text : Text) (h : s.queue.find? id = some l) :
      Effect s (.replaceLine id text) ⟨.line (.made s.made),
        { s with queue := (s.queue.replace id s.made text).2, made := s.made + 1 },
        [.queueChanged]⟩
  | executeLine {id : LineId} {l : Line} {o : Outcome} (h : s.queue.find? id = some l)
      (ho : Command.attempt l.text s.state = o) :
      Effect s (.executeLine id) ⟨.outcome o,
        { s with
          state := o.applyTo s.state
          queue := s.queue.mark [id]
          log := s.log.push (commandEntry l.text o) },
        changeEvents s.state (o.applyTo s.state) ++
          [.commandExecuted id o.success, .queueChanged]⟩
  | lineNotFound {op : Operation} {id : LineId} (hop : op.line? = some id)
      (h : s.queue.find? id = none) : Effect s op ⟨.refused (.lineNotFound id), s, []⟩
  | executeText {text : Text} {o : Outcome} (ho : Command.attempt text s.state = o) :
      Effect s (.executeText text) ⟨.outcome o,
        { s with state := o.applyTo s.state, log := s.log.push (commandEntry text o) },
        changeEvents s.state (o.applyTo s.state)⟩
  | runPending {run : Sequence} (h : s.queue.pending ≠ [])
      (hr : Sequence.run s.queue.pending s.state = run) :
      Effect s .runPending ⟨.trace run.trace,
        { s with
          state := run.final
          queue := s.queue.mark run.attempted
          log := s.log.pushAll (run.trace.map fun e => commandEntry e.text e.outcome) },
        changeEvents s.state run.final ++
          [.queueChanged, .sequenceCommitted run.trace.length run.failures]⟩
  | nothingPending (h : s.queue.pending = []) : Effect s .runPending ⟨.trace [], s, []⟩
  | recordInstruction (instruction : Text) :
      Effect s (.recordInstruction instruction) ⟨.done,
        { s with log := s.log.push ⟨.instruction, true, String.ofList instruction⟩ }, []⟩
  | acceptReply (texts : List Text) :
      Effect s (.acceptReply texts) ⟨.lines ((Queue.freshLines s.made texts).map Line.id),
        { s with
          queue := s.queue.extend s.made texts
          log := s.log.push ⟨.assistReply, true, s!"Received {texts.length} commands"⟩
          made := s.made + texts.length },
        if texts.isEmpty then [] else [.queueChanged]⟩
  | recordAssistFailure (message : String) :
      Effect s (.recordAssistFailure message) ⟨.done,
        { s with log := s.log.push ⟨.assistError, false, message⟩ }, [.assistFailed message]⟩

variable {s : Session} {op : Operation} {step : Step Answer} {id : LineId}

/-- An operation on a line that is not there is refused, and leaves nothing behind. -/
theorem perform_of_find?_eq_none (hop : op.line? = some id) (h : s.queue.find? id = none) :
    s.perform op = ⟨.refused (.lineNotFound id), s, []⟩ := by
  cases op with
  | editLine i text =>
    cases hop
    rw [perform, editLine_of_missing h]
    rfl
  | replaceLine i text =>
    cases hop
    rw [perform, replaceLine_of_missing h]
    rfl
  | executeLine i =>
    cases hop
    rw [perform, executeLine_of_missing h]
    rfl
  | _ => cases hop

/-- The cases leave no choice. -/
theorem Effect.perform_eq (he : Effect s op step) : s.perform op = step := by
  cases he with
  | setState | enqueue | recordInstruction | acceptReply | recordAssistFailure => rfl
  | setCursor h =>
    rw [perform, Session.setCursor, changeState_of_ok h]
    rfl
  | cursorRefused h =>
    rw [perform, Session.setCursor, changeState_of_error h]
    rfl
  | setSelection h =>
    rw [perform, Session.setSelection, changeState_of_ok h]
    rfl
  | selectionRefused h =>
    rw [perform, Session.setSelection, changeState_of_error h]
    rfl
  | editLine text h =>
    rw [perform, editLine_of_found h]
    rfl
  | replaceLine text h =>
    rw [perform, replaceLine_of_found h]
    rfl
  | executeLine h ho =>
    rw [perform, executeLine_of_found h ho]
    rfl
  | lineNotFound hop h => exact perform_of_find?_eq_none hop h
  | executeText ho =>
    subst ho
    rfl
  | runPending h hr =>
    subst hr
    rw [perform, Session.runPending]
    split
    · contradiction
    · rfl
  | nothingPending h =>
    rw [perform, Session.runPending, h]
    rfl

theorem exists_effect (s : Session) (op : Operation) : ∃ step, Effect s op step := by
  cases op with
  | setState state => exact ⟨_, .setState state⟩
  | setCursor cursor =>
    cases h : s.state.withCursor cursor with
    | ok state => exact ⟨_, .setCursor h⟩
    | error e => exact ⟨_, .cursorRefused h⟩
  | setSelection selection =>
    cases h : s.state.withSelection selection with
    | ok state => exact ⟨_, .setSelection h⟩
    | error e => exact ⟨_, .selectionRefused h⟩
  | enqueue text => exact ⟨_, .enqueue text⟩
  | editLine id text =>
    cases h : s.queue.find? id with
    | none => exact ⟨_, .lineNotFound rfl h⟩
    | some l => exact ⟨_, .editLine text h⟩
  | replaceLine id text =>
    cases h : s.queue.find? id with
    | none => exact ⟨_, .lineNotFound rfl h⟩
    | some l => exact ⟨_, .replaceLine text h⟩
  | executeLine id =>
    cases h : s.queue.find? id with
    | none => exact ⟨_, .lineNotFound rfl h⟩
    | some l => exact ⟨_, .executeLine h rfl⟩
  | executeText text => exact ⟨_, .executeText rfl⟩
  | runPending =>
    by_cases h : s.queue.pending = []
    · exact ⟨_, .nothingPending h⟩
    · exact ⟨_, .runPending h rfl⟩
  | recordInstruction instruction => exact ⟨_, .recordInstruction instruction⟩
  | acceptReply texts => exact ⟨_, .acceptReply texts⟩
  | recordAssistFailure message => exact ⟨_, .recordAssistFailure message⟩

/-- **What an operation does to a session** is one of the cases of `Session.Effect`. -/
theorem perform_effect (s : Session) (op : Operation) : Effect s op (s.perform op) := by
  obtain ⟨step, he⟩ := s.exists_effect op
  exact he.perform_eq ▸ he

/-! ## Sequences -/

/-- The session with the final state and the log entries of a run, and its queue left alone. -/
def commitRun (s : Session) (run : Sequence) : Session :=
  { s with
    state := run.final
    log := s.log.pushAll (run.trace.map fun e => commandEntry e.text e.outcome) }

theorem runPending_answer (s : Session) :
    s.runPending.answer = (Sequence.run s.queue.pending s.state).trace := by
  unfold runPending
  split
  · rename_i h
    rw [h]
    rfl
  · rfl

/-- A sequence commits the run of the pending lines and marks them. -/
theorem runPending_session (s : Session) :
    s.runPending.session =
      { s.commitRun (Sequence.run s.queue.pending s.state) with
        queue := s.queue.mark (s.queue.pending.map Line.id) } := by
  unfold runPending
  split
  · rename_i h
    rw [h]
    rfl
  · simp only [Sequence.attempted_pending]
    rfl

theorem runPending_answer_eq_nil_iff {s : Session} :
    s.runPending.answer = [] ↔ s.queue.pending = [] := by
  rw [runPending_answer, Sequence.trace_eq_nil_iff, Queue.filter_pending]

/-- The events of a sequence: the state if it is another one, the queue, and then the count of
what was attempted and of what failed. -/
theorem runPending_events {s : Session} (h : s.queue.pending ≠ []) :
    s.runPending.events = changeEvents s.state s.runPending.session.state ++
      [.queueChanged, .sequenceCommitted s.runPending.answer.length
        (s.runPending.answer.countP fun e => !e.outcome.success)] := by
  unfold runPending
  split
  · contradiction
  · rfl

/-- Without pending lines a sequence does nothing. -/
theorem runPending_of_pending_eq_nil {s : Session} (h : s.queue.pending = []) :
    s.runPending = ⟨[], s, []⟩ := by
  unfold runPending
  rw [h]

/-! ## Runs -/

/-- Does operations one after the other. The step of the run has all answers, the last session
and all events. -/
def performAll : Session → List Operation → Step (List Answer)
  | s, [] => ⟨[], s, []⟩
  | s, op :: ops =>
    let first := s.perform op
    let later := first.session.performAll ops
    ⟨first.answer :: later.answer, later.session, first.events ++ later.events⟩

theorem performAll_append (s : Session) (ops ops' : List Operation) :
    s.performAll (ops ++ ops') =
      let first := s.performAll ops
      let later := first.session.performAll ops'
      ⟨first.answer ++ later.answer, later.session, first.events ++ later.events⟩ := by
  induction ops generalizing s with
  | nil => rfl
  | cons op ops ih => simp [performAll, ih]

/-- What every operation keeps holds after every run. -/
theorem performAll_keeps {P : Session → Prop} (hstep : ∀ s op, P s → P (s.perform op).session)
    {s : Session} (hs : P s) (ops : List Operation) : P (s.performAll ops).session := by
  induction ops generalizing s with
  | nil => exact hs
  | cons op ops ih => exact ih (hstep s op hs)

/-! ## Distinct ids -/

/-- An operation numbers the lines that it makes from `made` on. -/
theorem Effect.numbered {s : Session} {op : Operation} {step : Step Answer}
    (he : Effect s op step) (h : s.queue.Numbered s.made) :
    step.session.queue.Numbered step.session.made := by
  cases he with
  | setState | setCursor | cursorRefused | setSelection | selectionRefused | lineNotFound
  | executeText | nothingPending | recordInstruction | recordAssistFailure => exact h
  | enqueue text => exact h.extend [text]
  | editLine text _ => exact h.edit text
  | replaceLine text _ => exact h.replace text
  | executeLine | runPending => exact h.mark _
  | acceptReply texts => exact h.extend texts

/-- **The ids in the queue of a session are distinct**, and no line that is still to be made has
one of them. -/
theorem numbered_performAll (content : Buffer) (settings : Settings) (ops : List Operation) :
    let s := ((start content settings).performAll ops).session
    s.queue.Numbered s.made :=
  performAll_keeps (P := fun s => s.queue.Numbered s.made)
    (fun s op h => (perform_effect s op).numbered h) .empty ops

end Session
end EditScript
