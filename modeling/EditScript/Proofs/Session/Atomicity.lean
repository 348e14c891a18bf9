import EditScript.Proofs.Outcome
import EditScript.Proofs.Session.Announcements
import EditScript.Proofs.State.Parts

/-!
# Nothing is done by halves

An operation fails in one of two ways. It is refused, and then nothing has happened, although it
works on the session in place and what it has done by then would stay. Or it runs commands of which
some fail, and then each of these leaves the state as it found it, but is logged and counts as run.

* `Session.Effect.refused`: an operation that is refused changes and announces nothing;
  `Session.exists_refused_iff` and `Session.refused_lineNotFound_iff` tell when that is so.
* `Session.Attempt`, `Session.attempts`: the commands that an operation ran.
* `Session.Commits`, `Session.Effect.commits`: what becomes of a session in which commands were
  run, said for single lines, single texts and sequences alike (`Session.Commits.one`,
  `Session.Commits.pending`).
* `Session.Inert`, `Session.Commits.inert`: what a command that failed leaves of itself.
* `Session.failed_operations_atomic`: what follows for every session that a run reaches.
-/

namespace EditScript
namespace Session

variable {s : Session} {op : Operation} {step : Step Answer}

/-! ## Operations that are refused -/

/-- **An operation that is refused does nothing.** -/
theorem Effect.refused (he : Effect s op step) {e : SessionError}
    (h : step.answer = .refused e) : step.session = s ∧ step.events = [] := by
  cases he with
  | cursorRefused | selectionRefused | lineNotFound => exact ⟨rfl, rfl⟩
  | setState | setCursor | setSelection | enqueue | editLine | replaceLine | executeLine
  | executeText | runPending | nothingPending | recordInstruction | acceptReply
  | recordAssistFailure => cases h

/-- The parts of the state that an operation asks for, if it names a cursor or a selection. -/
def requested? (s : Session) : Operation → Option State.Parts
  | .setCursor cursor => some ⟨s.state.content, cursor, .caret cursor⟩
  | .setSelection selection => some ⟨s.state.content, s.state.cursor, selection⟩
  | _ => none

/-- A cursor or a selection is refused where it breaks a bound, and not otherwise. -/
theorem exists_refused_iff (s : Session) (op : Operation) {parts : State.Parts}
    (h : s.requested? op = some parts) :
    (∃ e, (s.perform op).answer = .refused e) ↔ ¬parts.WithinBounds := by
  have he := perform_effect s op
  generalize s.perform op = step at he ⊢
  cases he with
  | setCursor hstate | setSelection hstate =>
    cases h
    refine iff_of_false (by rintro ⟨e, ⟨⟩⟩) fun hw => ?_
    exact hw (State.withinBounds_of_ofParts hstate)
  | cursorRefused hstate | selectionRefused hstate =>
    cases h
    exact iff_of_true ⟨_, rfl⟩ (State.exists_ofParts_eq_error_iff.1 ⟨_, hstate⟩)
  | lineNotFound hop =>
    -- No operation asks both for a line and for a cursor or a selection.
    cases op with
    | editLine | replaceLine | executeLine => cases h
    | _ => cases hop
  | setState | enqueue | editLine | replaceLine | executeLine | executeText | runPending
  | nothingPending | recordInstruction | acceptReply | recordAssistFailure => cases h

/-- An operation that asks for a line is refused if there is no such line, and not otherwise. -/
theorem refused_lineNotFound_iff (s : Session) {id : LineId} (hop : op.line? = some id) :
    (s.perform op).answer = .refused (.lineNotFound id) ↔ ∀ l ∈ s.queue.lines, l.id ≠ id := by
  have hnone : s.queue.find? id = none ↔ ∀ l ∈ s.queue.lines, l.id ≠ id := by
    simp [Queue.find?]
  rw [← hnone]
  have he := perform_effect s op
  generalize s.perform op = step at he ⊢
  cases he with
  | editLine _ h | replaceLine _ h | executeLine h =>
    cases hop
    refine iff_of_false (by rintro ⟨⟩) ?_
    rw [h]
    rintro ⟨⟩
  | lineNotFound hop' h =>
    obtain rfl := Option.some.inj (hop'.symm.trans hop)
    exact iff_of_true rfl h
  | setState | setCursor | cursorRefused | setSelection | selectionRefused | enqueue
  | executeText | runPending | nothingPending | recordInstruction | acceptReply
  | recordAssistFailure => cases hop

/-! ## Commands that fail -/

/-- A text that was run as a command, and what came of it. -/
structure Attempt where
  /-- The line that the text stands in; absent if the text is not queued. -/
  line : Option LineId
  /-- The text. -/
  text : Text
  /-- What came of it. -/
  outcome : Outcome

/-- What a sequence notes about a line, as an attempt. -/
def Attempt.ofEntry (e : TraceEntry) : Attempt := ⟨some e.line, e.text, e.outcome⟩

/-- What the log tells of the attempt. -/
def Attempt.entry (a : Attempt) : Log.Entry := commandEntry a.text a.outcome

/-- The commands that an operation ran, in order, as its answer tells. -/
def attempts (s : Session) : Operation → Answer → List Attempt
  | .executeLine id, .outcome o => (s.queue.find? id).toList.map fun l => ⟨some id, l.text, o⟩
  | .executeText text, .outcome o => [⟨none, text, o⟩]
  | .runPending, .trace trace => trace.map Attempt.ofEntry
  | _, _ => []

/-- The state that attempts lead to, one after the other. -/
def stateAfter (state : State) (as : List Attempt) : State :=
  as.foldl (fun state a => a.outcome.applyTo state) state

/-- A line that is there is attempted once. -/
theorem attempts_executeLine {id : LineId} {l : Line} (h : s.queue.find? id = some l)
    (o : Outcome) : s.attempts (.executeLine id) (.outcome o) = [⟨some id, l.text, o⟩] := by
  simp [attempts, h]

variable {as before after : List Attempt} {a : Attempt}

theorem stateAfter_append (state : State) (before after : List Attempt) :
    stateAfter state (before ++ after) = stateAfter (stateAfter state before) after :=
  List.foldl_append

/-- The entries of a trace lead to the states that their outcomes lead to. -/
theorem stateAfter_ofEntry (trace : List TraceEntry) (state : State) :
    stateAfter state (trace.map Attempt.ofEntry) =
      trace.foldl (fun s e => e.outcome.applyTo s) state := List.foldl_map

/-- What becomes of a session in which commands were run. Each was attempted in the state that
those before it led to. The last state is kept, each attempt has one entry in the log, and the
lines that were attempted count as run. -/
structure Commits (s : Session) (as : List Attempt) (step : Step Answer) : Prop where
  outcome : ∀ before a after, as = before ++ a :: after →
    a.outcome = Command.attempt a.text (stateAfter s.state before)
  found : ∀ a ∈ as, ∀ id, a.line = some id → ∃ l, s.queue.find? id = some l
  state : step.session.state = stateAfter s.state as
  log : step.session.log = s.log.pushAll (as.map Attempt.entry)
  queue : step.session.queue = s.queue.mark (as.filterMap Attempt.line)
  buffer : .bufferChanged ∈ step.events ↔ step.session.state ≠ s.state

namespace Commits

/-- Nothing is attempted, and nothing happens. -/
theorem none (hs : step.session = s)
    (hb : .bufferChanged ∈ step.events ↔ step.session.state ≠ s.state) : Commits s [] step where
  outcome before a after h := by simp at h
  found a ha := by cases ha
  state := by rw [hs]; rfl
  log := by rw [hs]; rfl
  queue := by rw [hs]; rfl
  buffer := hb

/-- One command is attempted in the state as it is. -/
theorem one (ho : Command.attempt a.text s.state = a.outcome)
    (hfound : ∀ id, a.line = some id → ∃ l, s.queue.find? id = some l)
    (hstate : step.session.state = a.outcome.applyTo s.state)
    (hlog : step.session.log = s.log.push a.entry)
    (hqueue : step.session.queue = s.queue.mark a.line.toList)
    (hb : .bufferChanged ∈ step.events ↔ step.session.state ≠ s.state) :
    Commits s [a] step := by
  refine ⟨fun before b after hsplit => ?_, fun b hmem id hid => ?_, hstate, hlog, ?_, hb⟩
  · cases before with
    | nil =>
      obtain ⟨rfl, -⟩ := List.cons.inj hsplit
      exact ho.symm
    | cons first before => simp at hsplit
  · obtain rfl := List.mem_singleton.1 hmem
    exact hfound id hid
  · rw [hqueue]
    cases hline : a.line with
    | none => simp [hline]
    | some id => simp [hline]

/-- The pending lines are attempted, each in the state that the one before left. -/
theorem pending (hq : s.queue.Distinct)
    (hs : step.session = { s.commitRun (Sequence.run s.queue.pending s.state) with
      queue := s.queue.mark (Sequence.run s.queue.pending s.state).attempted })
    (hb : .bufferChanged ∈ step.events ↔ step.session.state ≠ s.state) :
    Commits s ((Sequence.run s.queue.pending s.state).trace.map Attempt.ofEntry) step := by
  refine ⟨fun before a after hsplit => ?_, fun a ha id hid => ?_, ?_, ?_, ?_, hb⟩
  · obtain ⟨front, back, htrace, rfl, hback⟩ := List.map_eq_append_iff.1 hsplit
    obtain ⟨e, rest, rfl, rfl, -⟩ := List.map_eq_cons_iff.1 hback
    rw [stateAfter_ofEntry]
    exact Sequence.outcome_of_trace_eq htrace
  · obtain ⟨e, hmem, rfl⟩ := List.mem_map.1 ha
    cases hid
    have hline : e.line ∈ (Sequence.run s.queue.pending s.state).attempted :=
      List.mem_map_of_mem hmem
    rw [Sequence.attempted_pending] at hline
    obtain ⟨l, hl, hlid⟩ := List.mem_map.1 hline
    exact ⟨l, hlid ▸ Queue.find?_of_mem hq (Queue.mem_pending.1 hl).1⟩
  · rw [hs, stateAfter_ofEntry, Sequence.foldl_trace]
    rfl
  · rw [hs, List.map_map]
    rfl
  · rw [hs, List.filterMap_map]
    exact congrArg s.queue.mark (congrFun List.filterMap_eq_map _).symm

end Commits

/-- **Operations that run commands** commit their attempts, whether it is one or many. -/
theorem Effect.commits (he : Effect s op step) (hop : op.runsCommands = true)
    (hq : s.queue.Distinct) : Commits s (s.attempts op step.answer) step := by
  have hb : .bufferChanged ∈ step.events ↔ step.session.state ≠ s.state :=
    ⟨he.announced.buffer_only hop, he.announced.buffer⟩
  cases he with
  | @executeLine id l o h ho =>
    show Commits s (s.attempts (.executeLine id) (.outcome o)) _
    rw [attempts_executeLine h]
    exact .one ho (fun i hi => ⟨l, Option.some.inj hi ▸ h⟩) rfl rfl rfl hb
  | executeText ho => exact .one ho (fun i hi => by cases hi) rfl rfl rfl hb
  | runPending _ hr =>
    subst hr
    exact .pending hq rfl hb
  | nothingPending => exact .none rfl hb
  | lineNotFound =>
    have has : ∀ e, s.attempts op (.refused e) = [] := fun e => by cases op <;> rfl
    rw [has]
    exact .none rfl hb
  | setState | setCursor | cursorRefused | setSelection | selectionRefused | enqueue | editLine
  | replaceLine | recordInstruction | acceptReply | recordAssistFailure => cases hop

/-- What an attempt that failed leaves of itself, among those that the operation made before and
after it. The state is as it was, and what is announced is what the others lead to. There is one
entry for it in the log, and it says that the attempt failed. The line it stands in counts as
run. -/
structure Inert (s : Session) (step : Step Answer) (before : List Attempt) (a : Attempt)
    (after : List Attempt) : Prop where
  outcome : a.outcome = Command.attempt a.text (stateAfter s.state before)
  kept : stateAfter s.state (before ++ [a]) = stateAfter s.state before
  state : step.session.state = stateAfter s.state (before ++ after)
  buffer : .bufferChanged ∈ step.events ↔ stateAfter s.state (before ++ after) ≠ s.state
  log : step.session.log =
    ((s.log.pushAll (before.map Attempt.entry)).push a.entry).pushAll (after.map Attempt.entry)
  failed : a.entry.success = false
  marked : ∀ id, a.line = some id → ∃ l, step.session.queue.find? id = some l ∧ l.executed = true

/-- **A command that fails changes no state**, but is logged and counts as run. -/
theorem Commits.inert (h : Commits s (before ++ a :: after) step) (hq : s.queue.Distinct)
    (hf : a.outcome.success = false) : Inert s step before a after := by
  have hkept : stateAfter s.state (before ++ [a]) = stateAfter s.state before := by
    rw [stateAfter_append]
    exact Outcome.applyTo_of_not_success hf
  have hstate : step.session.state = stateAfter s.state (before ++ after) := by
    rw [h.state, List.append_cons, stateAfter_append, hkept, stateAfter_append]
  refine ⟨h.outcome before a after rfl, hkept, hstate, ?_, ?_, hf, fun id hid => ?_⟩
  · rw [h.buffer, hstate]
  · rw [h.log, List.map_append, List.map_cons]
    exact List.foldl_append
  · have hmem : a ∈ before ++ a :: after := by simp
    obtain ⟨l, hl⟩ := h.found a hmem id hid
    rw [h.queue]
    exact Queue.find?_mark hq (List.mem_filterMap.2 ⟨a, hmem, hid⟩) hl

/-- Only operations that run commands have attempts. -/
theorem runsCommands_of_attempts {answer : Answer} (h : s.attempts op answer ≠ []) :
    op.runsCommands = true := by
  cases op with
  | executeLine | executeText | runPending => rfl
  | setState | setCursor | setSelection | enqueue | editLine | replaceLine | recordInstruction
  | acceptReply | recordAssistFailure => exact absurd rfl h

/-- **Operations that fail are atomic.** In every session that a run reaches, a cursor or a
selection is refused if the state that it would lead to breaks a bound, and an operation on a line
if no line has the id. An operation that is refused changes nothing and announces nothing. A
command that fails leaves the state as it found it, announces nothing of its own, has one entry in
the log, and the line it stands in counts as run. What passes between the session and the
assistant never changes the state, and changes the queue only in that a reply adds lines to its
end. -/
theorem failed_operations_atomic (content : Buffer) (settings : Settings)
    (ops : List Operation) :
    let s := ((start content settings).performAll ops).session
    (∀ cursor, (∃ e, (s.perform (.setCursor cursor)).answer = .refused e) ↔
      ¬State.Parts.WithinBounds ⟨s.state.content, cursor, .caret cursor⟩) ∧
    (∀ selection, (∃ e, (s.perform (.setSelection selection)).answer = .refused e) ↔
      ¬State.Parts.WithinBounds ⟨s.state.content, s.state.cursor, selection⟩) ∧
    (∀ op id, op.line? = some id →
      ((s.perform op).answer = .refused (.lineNotFound id) ↔ ∀ l ∈ s.queue.lines, l.id ≠ id)) ∧
    (∀ op e, (s.perform op).answer = .refused e →
      (s.perform op).session = s ∧ (s.perform op).events = []) ∧
    (∀ op before a after, s.attempts op (s.perform op).answer = before ++ a :: after →
      a.outcome.success = false → Inert s (s.perform op) before a after) ∧
    (∀ instruction, let t := (s.perform (.recordInstruction instruction)).session
      t.state = s.state ∧ t.queue = s.queue) ∧
    (∀ texts, let t := (s.perform (.acceptReply texts)).session
      t.state = s.state ∧ ∃ new, t.queue.lines = s.queue.lines ++ new ∧
        new.map Line.text = texts ∧ ∀ l ∈ new, l.executed = false) ∧
    (∀ message, let t := (s.perform (.recordAssistFailure message)).session
      t.state = s.state ∧ t.queue = s.queue) := by
  intro s
  have hq : s.queue.Distinct := (numbered_performAll content settings ops).distinct
  refine ⟨fun cursor => s.exists_refused_iff (.setCursor cursor) rfl,
    fun selection => s.exists_refused_iff (.setSelection selection) rfl,
    fun op id hop => s.refused_lineNotFound_iff hop, fun op e => (perform_effect s op).refused,
    fun op before a after hsplit hf => ?_, fun _ => ⟨rfl, rfl⟩, fun texts => ⟨rfl, ?_⟩,
    fun _ => ⟨rfl, rfl⟩⟩
  · have hop : op.runsCommands = true := runsCommands_of_attempts (by rw [hsplit]; simp)
    have hcommits := (perform_effect s op).commits hop hq
    rw [hsplit] at hcommits
    exact hcommits.inert hq hf
  · refine ⟨Queue.freshLines s.made texts, rfl, ?_, fun l hl => (Queue.mem_freshLines hl).1⟩
    exact Queue.freshLines_texts s.made texts

/-- A line that is no command, between two that are; and a line that there is not. -/
theorem failure_between_successes_inert :
    let s := ((start ⟨[]⟩ {}).performAll
      [.enqueue "INSERT a".toList, .enqueue "jump".toList, .enqueue "DELETE".toList]).session
    let missing := Operation.editLine (.made 3) "MOVE 0".toList
    (∃ before a after, before ≠ [] ∧ after ≠ [] ∧
      s.attempts .runPending (s.perform .runPending).answer = before ++ a :: after ∧
      a.outcome.success = false ∧ Inert s (s.perform .runPending) before a after) ∧
    (s.perform missing).answer = .refused (.lineNotFound (.made 3)) ∧
      (s.perform missing).session = s ∧ (s.perform missing).events = [] := by
  intro s missing
  obtain ⟨-, -, hlines, hrefused, hinert, -⟩ := failed_operations_atomic ⟨[]⟩ {}
    [.enqueue "INSERT a".toList, .enqueue "jump".toList, .enqueue "DELETE".toList]
  have hmissing := (hlines missing (.made 3) rfl).2 (by decide)
  let inserted := Command.attempt "INSERT a".toList s.state
  let rejected := Command.attempt "jump".toList (inserted.applyTo s.state)
  let deleted := Command.attempt "DELETE".toList (inserted.applyTo s.state)
  have hsplit : s.attempts .runPending (s.perform .runPending).answer =
      [⟨some (.made 0), "INSERT a".toList, inserted⟩] ++
        ⟨some (.made 1), "jump".toList, rejected⟩ ::
          [⟨some (.made 2), "DELETE".toList, deleted⟩] := rfl
  have hfailed : rejected.success = false := rfl
  exact ⟨⟨_, _, _, by simp, by simp, hsplit, hfailed, hinert _ _ _ _ hsplit hfailed⟩, hmissing,
    hrefused missing _ hmissing⟩

end Session
end EditScript
