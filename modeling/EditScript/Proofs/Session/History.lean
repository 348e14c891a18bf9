import EditScript.Proofs.Session.Atomicity

/-!
# What the log is told

The log is written to and never read: an operation does the same whatever the log holds.

* `Session.entries`: the entries that an operation appends to the log.
* `Session.perform_relog`: an operation on a session with another log.
* `Session.told`: the entries of a run, whether the log still has them or not.
* `Session.settings_performAll`: a session keeps the settings it was opened with.
-/

namespace EditScript
namespace Session

/-- The entries that an operation appends to the log, in order, as its answer tells. -/
def entries (s : Session) (op : Operation) (answer : Answer) : List Log.Entry :=
  match op with
  | .recordInstruction instruction => [⟨.instruction, true, String.ofList instruction⟩]
  | .acceptReply texts => [⟨.assistReply, true, s!"Received {texts.length} commands"⟩]
  | .recordAssistFailure message => [⟨.assistError, false, message⟩]
  | op => (s.attempts op answer).map Attempt.entry

variable {s : Session} {op : Operation} {step : Step Answer}

theorem entries_relog (s : Session) (log : Log) (op : Operation) (answer : Answer) :
    { s with log := log }.entries op answer = s.entries op answer := by
  cases op <;> rfl

/-- A line that is run is told of once. -/
theorem entries_executeLine {id : LineId} {l : Line} (h : s.queue.find? id = some l)
    (o : Outcome) : s.entries (.executeLine id) (.outcome o) = [commandEntry l.text o] :=
  congrArg (List.map Attempt.entry) (attempts_executeLine h o)

/-- The case that applies is the same whatever the log holds. -/
theorem Effect.relog (he : Effect s op step) (log : Log) :
    Effect { s with log := log } op ⟨step.answer,
      { step.session with log := log.pushAll (s.entries op step.answer) }, step.events⟩ := by
  cases he with
  | setState state => exact .setState state
  | setCursor h => exact .setCursor h
  | cursorRefused h => exact .cursorRefused h
  | setSelection h => exact .setSelection h
  | selectionRefused h => exact .selectionRefused h
  | enqueue text => exact .enqueue text
  | editLine text h => exact .editLine text h
  | replaceLine text h => exact .replaceLine text h
  | @executeLine id l o h ho =>
    rw [entries_executeLine h]
    exact .executeLine h ho
  | @lineNotFound op id hop h =>
    have hentries : s.entries op (.refused (.lineNotFound id)) = [] := by
      cases op with
      | editLine | replaceLine | executeLine => rfl
      | _ => cases hop
    rw [hentries]
    exact .lineNotFound hop h
  | executeText ho => exact .executeText ho
  | @runPending run h hr =>
    have hentries : s.entries .runPending (.trace run.trace) =
        run.trace.map fun e => commandEntry e.text e.outcome := List.map_map
    rw [hentries]
    exact .runPending h hr
  | nothingPending h => exact .nothingPending h
  | recordInstruction instruction => exact .recordInstruction instruction
  | acceptReply texts => exact .acceptReply texts
  | recordAssistFailure message => exact .recordAssistFailure message

/-- **An operation does the same whatever the log holds**, and appends its entries to it. -/
theorem perform_relog (s : Session) (log : Log) (op : Operation) :
    { s with log := log }.perform op =
      ⟨(s.perform op).answer,
        { (s.perform op).session with log := log.pushAll (s.entries op (s.perform op).answer) },
        (s.perform op).events⟩ :=
  ((perform_effect s op).relog log).perform_eq

/-- What an operation appends to the log. -/
theorem log_perform (s : Session) (op : Operation) :
    (s.perform op).session.log = s.log.pushAll (s.entries op (s.perform op).answer) :=
  congrArg (fun step => step.session.log) (perform_relog s s.log op)

/-- The entries that a run appends to the log, in order. -/
def told : Session → List Operation → List Log.Entry
  | _, [] => []
  | s, op :: ops =>
    s.entries op (s.perform op).answer ++ told (s.perform op).session ops

theorem told_append (s : Session) (ops ops' : List Operation) :
    s.told (ops ++ ops') = s.told ops ++ (s.performAll ops).session.told ops' := by
  induction ops generalizing s with
  | nil => rfl
  | cons op ops ih => simp [told, performAll, ih]

/-- What a run appends to the log. -/
theorem log_performAll (s : Session) (ops : List Operation) :
    (s.performAll ops).session.log = s.log.pushAll (s.told ops) := by
  induction ops generalizing s with
  | nil => rfl
  | cons op ops ih =>
    show ((s.perform op).session.performAll ops).session.log = _
    rw [ih, log_perform]
    exact List.foldl_append.symm

theorem settings_perform (s : Session) (op : Operation) :
    (s.perform op).session.settings = s.settings := by
  have he := perform_effect s op
  generalize s.perform op = step at he ⊢
  cases he <;> rfl

/-- A session keeps the settings it was opened with. -/
theorem settings_performAll (s : Session) (ops : List Operation) :
    (s.performAll ops).session.settings = s.settings :=
  performAll_keeps (P := fun t => t.settings = s.settings)
    (fun t op h => (settings_perform t op).trans h) rfl ops

end Session
end EditScript
