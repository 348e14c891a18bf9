import EditScript.Proofs.Bus
import EditScript.Proofs.Session.Run

/-!
# Observers are kept up to date

An observer of a session holds a copy of the state and one of the queue. After each operation it
drains its reader and copies anew what the events name.

* `Session.Announced`: the events of an operation name each of the two at most once, and name
  what the operation changed.
* `Session.Effect.announced`: this holds of every operation.
* `Watch`, `Watch.perform`: a session, the bus that its events go through and the copies of one
  observer.
* `Session.events_keep_observers_current`: what follows for every run.
-/

namespace EditScript

/-- The event tells of a sequence. -/
def Event.isCommit : Event → Bool
  | .sequenceCommitted _ _ => true
  | _ => false

/-- The event tells of a single line. -/
def Event.isExecution : Event → Bool
  | .commandExecuted _ _ => true
  | _ => false

namespace Session

/-- The operation runs commands on the live state. -/
def Operation.runsCommands : Operation → Bool
  | .executeLine _ | .executeText _ | .runPending => true
  | _ => false

/-- The events of an operation name the state and the queue at most once each, and whenever they
are other ones afterwards. An operation that runs commands names the state only then. -/
structure Announced (s : Session) (op : Operation) (step : Step Answer) : Prop where
  buffer_once : step.events.count .bufferChanged ≤ 1
  buffer : step.session.state ≠ s.state → .bufferChanged ∈ step.events
  buffer_only : op.runsCommands = true → .bufferChanged ∈ step.events →
    step.session.state ≠ s.state
  queue_once : step.events.count .queueChanged ≤ 1
  queue : step.session.queue ≠ s.queue → .queueChanged ∈ step.events

theorem changeEvents_self (state : State) : changeEvents state state = [] := if_pos rfl

theorem changeEvents_of_ne {before after : State} (h : after ≠ before) :
    changeEvents before after = [.bufferChanged] := if_neg h

/-! ## The kinds of operations -/

namespace Announced

variable {s : Session} {op : Operation} {step : Step Answer}

/-- Nothing changes, and neither is named. -/
theorem of_unchanged (hs : step.session.state = s.state) (hq : step.session.queue = s.queue)
    (hes : .bufferChanged ∉ step.events) (heq : .queueChanged ∉ step.events) :
    Announced s op step where
  buffer_once := by rw [List.count_eq_zero.2 hes]; exact Nat.zero_le 1
  buffer h := absurd hs h
  buffer_only _ h := absurd h hes
  queue_once := by rw [List.count_eq_zero.2 heq]; exact Nat.zero_le 1
  queue h := absurd hq h

/-- Another state is put in, even an equal one. -/
theorem of_state (hop : op.runsCommands = false) (he : step.events = [.bufferChanged])
    (hq : step.session.queue = s.queue) : Announced s op step where
  buffer_once := by simp [he]
  buffer _ := by simp [he]
  buffer_only h := by rw [hop] at h; cases h
  queue_once := by simp [he]
  queue h := absurd hq h

/-- Lines are made or given texts. -/
theorem of_queue (he : step.events = [.queueChanged]) (hs : step.session.state = s.state) :
    Announced s op step where
  buffer_once := by simp [he]
  buffer h := absurd hs h
  buffer_only _ h := by simp [he] at h
  queue_once := by simp [he]
  queue _ := by simp [he]

/-- Commands are run: the state is named if it is another one, and what else there is to tell
comes after it. -/
theorem of_changeEvents {rest : List Event}
    (he : step.events = changeEvents s.state step.session.state ++ rest)
    (hb : .bufferChanged ∉ rest) (hq : rest.count .queueChanged ≤ 1)
    (hqueue : step.session.queue ≠ s.queue → .queueChanged ∈ rest) : Announced s op step := by
  have hcount : rest.count .bufferChanged = 0 := List.count_eq_zero.2 hb
  by_cases h : step.session.state = s.state
  · rw [h, changeEvents_self, List.nil_append] at he
    exact {
      buffer_once := by rw [he, hcount]; exact Nat.zero_le 1
      buffer := fun hne => absurd h hne
      buffer_only := fun _ hm => absurd (he ▸ hm) hb
      queue_once := by rw [he]; exact hq
      queue := fun hne => by rw [he]; exact hqueue hne }
  · rw [changeEvents_of_ne h] at he
    exact {
      buffer_once := by simp [he, hcount]
      buffer := fun _ => by simp [he]
      buffer_only := fun _ _ => h
      queue_once := by simpa [he] using hq
      queue := fun hne => by simp [he, hqueue hne] }

end Announced

namespace Effect

variable {s : Session} {op : Operation} {step : Step Answer}

/-- **Every operation announces what it changes.** -/
theorem announced (he : Effect s op step) : Announced s op step := by
  cases he with
  | setState | setCursor | setSelection => exact .of_state rfl rfl rfl
  | cursorRefused | selectionRefused | lineNotFound | nothingPending | recordInstruction
  | recordAssistFailure => exact .of_unchanged rfl rfl (by simp) (by simp)
  | enqueue | editLine | replaceLine => exact .of_queue rfl rfl
  | executeLine => exact .of_changeEvents rfl (by simp) (by simp) fun _ => by simp
  | executeText =>
    exact .of_changeEvents (List.append_nil _).symm (by simp) (by simp) fun h => absurd rfl h
  | runPending => exact .of_changeEvents rfl (by simp) (by simp) fun _ => by simp
  | acceptReply texts =>
    cases texts with
    | nil =>
      have hq : s.queue.extend s.made [] = s.queue :=
        congrArg Queue.mk (List.append_nil s.queue.lines)
      exact .of_unchanged rfl hq (by simp) (by simp)
    | cons text texts => exact .of_queue rfl rfl

private theorem length_changeEvents_append_le (before after : State) (rest : List Event) :
    (changeEvents before after ++ rest).length ≤ rest.length + 1 := by
  unfold changeEvents
  split
  · exact Nat.le_succ rest.length
  · exact Nat.le_refl (rest.length + 1)

/-- An operation has at most three events. -/
theorem length_events_le (he : Effect s op step) : step.events.length ≤ 3 := by
  cases he with
  | cursorRefused | selectionRefused | lineNotFound | nothingPending | recordInstruction =>
    exact Nat.zero_le 3
  | setState | setCursor | setSelection | enqueue | editLine | replaceLine
  | recordAssistFailure => exact Nat.le_add_left 1 2
  | executeLine | runPending => exact length_changeEvents_append_le ..
  | executeText =>
    refine Nat.le_trans ?_ (Nat.le_add_left 1 2)
    simpa using length_changeEvents_append_le s.state _ []
  | acceptReply texts =>
    cases texts with
    | nil => exact Nat.zero_le 3
    | cons => exact Nat.le_add_left 1 2

end Effect

/-! ## Sequences and single lines -/

private theorem filter_changeEvents {p : Event → Bool} (hp : p .bufferChanged = false)
    (before after : State) : (changeEvents before after).filter p = [] := by
  unfold changeEvents
  split
  · rfl
  · simp [hp]

/-- A sequence with a trace is told of by its last event, and by no other. -/
theorem commits_runPending (s : Session) :
    let trace := s.runPending.answer
    let commits : List Event := if trace = [] then [] else
      [.sequenceCommitted trace.length (trace.countP fun e => !e.outcome.success)]
    s.runPending.events.filter Event.isCommit = commits ∧ commits <:+ s.runPending.events := by
  intro trace commits
  by_cases hp : s.queue.pending = []
  · have hcommits : commits = [] := if_pos (runPending_answer_eq_nil_iff.2 hp)
    rw [hcommits, runPending_of_pending_eq_nil hp]
    exact ⟨rfl, List.nil_suffix⟩
  · have hcommits : commits = [.sequenceCommitted trace.length
        (trace.countP fun e => !e.outcome.success)] :=
      if_neg (mt runPending_answer_eq_nil_iff.1 hp)
    rw [hcommits, runPending_events hp]
    refine ⟨?_, ?_⟩
    · rw [List.filter_append, filter_changeEvents rfl]
      rfl
    · exact (List.suffix_cons _ _).trans (List.suffix_append _ _)

/-- A line that is run by its id is told of once, with its success. -/
theorem executions_executeLine {s : Session} {id : LineId} {o : Outcome}
    (h : (s.perform (.executeLine id)).answer = .outcome o) :
    (s.perform (.executeLine id)).events.filter Event.isExecution =
      [.commandExecuted id o.success] := by
  have he := perform_effect s (.executeLine id)
  generalize s.perform (.executeLine id) = step at he h ⊢
  cases he with
  | executeLine =>
    cases h
    rw [List.filter_append, filter_changeEvents rfl]
    rfl
  | lineNotFound => cases h

end Session

/-! ## Observers -/

/-- A session, the bus that its events go through, and what one observer of it holds. -/
structure Watch where
  /-- The session. -/
  session : Session
  /-- The bus. -/
  bus : Bus
  /-- The reader of the observer. -/
  reader : Nat
  /-- The copy of the state. -/
  state : State
  /-- The copy of the queue. -/
  queue : Queue

namespace Watch

/-- An observer that subscribes now and copies what is there. -/
def start (s : Session) (b : Bus) : Watch := ⟨s, b.subscribe, b.readers.length, s.state, s.queue⟩

/-- Does one operation and hands its events to the bus. The observer drains its reader and
copies anew what the events name. -/
def perform (w : Watch) (op : Session.Operation) : Watch :=
  let step := w.session.perform op
  let bus := w.bus.emitAll step.events
  match bus.drain w.reader with
  | none => { w with session := step.session, bus := bus }
  | some (events, _, bus) =>
    { w with
      session := step.session
      bus := bus
      state := if .bufferChanged ∈ events then step.session.state else w.state
      queue := if .queueChanged ∈ events then step.session.queue else w.queue }

/-- The copies are up to date, and the reader has read all that was emitted. -/
structure Current (w : Watch) : Prop where
  handles : 0 < w.bus.handles
  full : w.bus.Full
  reader : w.bus.readers[w.reader]? = some w.bus.emitted
  state : w.state = w.session.state
  queue : w.queue = w.session.queue

theorem start_current (s : Session) {b : Bus} (h : 0 < b.handles) (hf : b.Full) :
    (start s b).Current := by
  have hs : b.subscribe = { b with readers := b.readers ++ [b.emitted] } :=
    if_neg (Nat.pos_iff_ne_zero.1 h)
  refine ⟨?_, hf.subscribe, ?_, rfl, rfl⟩
  · simp only [start, hs, h]
  · simp [start, hs]

/-- A copy that was up to date is so again if it is made anew whenever there is something new. -/
private theorem copy_current {α : Type} {now before copy : α} {told : Prop} [Decidable told]
    (htold : now ≠ before → told) (hcopy : copy = before) :
    (if told then now else copy) = now := by
  split
  · rfl
  · rename_i h
    rw [hcopy]
    exact Classical.byContradiction fun hne => h (htold (Ne.symm hne))

/-- The observer gets the events of the operation, and they name what changed. -/
theorem Current.perform {w : Watch} (h : w.Current) (op : Session.Operation) :
    (w.perform op).Current ∧ (w.perform op).session = (w.session.perform op).session := by
  have he := w.session.perform_effect op
  have hannounced := he.announced
  have hroom : (w.session.perform op).events.length ≤ Bus.capacity :=
    Nat.le_trans he.length_events_le (by decide)
  have hdrain := Bus.drain_emitAll h.handles h.full h.reader hroom
  have heq := Bus.emitAll_eq h.handles h.full (w.session.perform op).events
  have hfull := h.full.emitAll (w.session.perform op).events
  unfold Watch.perform
  simp only [hdrain]
  refine ⟨⟨?_, hfull, ?_, ?_, ?_⟩, trivial⟩
  · rw [heq]
    exact h.handles
  · obtain ⟨hlt, -⟩ := List.getElem?_eq_some_iff.1 h.reader
    rw [List.getElem?_set_self hlt]
  · exact copy_current hannounced.buffer h.state
  · exact copy_current hannounced.queue h.queue

/-- The observer stays up to date in every run, and does not disturb the session. -/
theorem Current.performAll {w : Watch} (h : w.Current) (ops : List Session.Operation) :
    (ops.foldl Watch.perform w).Current ∧
      (ops.foldl Watch.perform w).session = (w.session.performAll ops).session := by
  induction ops generalizing w with
  | nil => exact ⟨h, rfl⟩
  | cons op ops ih =>
    obtain ⟨hcurrent, hsession⟩ := h.perform op
    obtain ⟨hlast, hrun⟩ := ih hcurrent
    refine ⟨hlast, ?_⟩
    rw [List.foldl_cons, hrun, hsession]
    rfl

end Watch

namespace Session

/-- **Observers that follow the events are never out of date.** In every session that a run
reaches, each operation names the state and the queue at most once, and whenever they are other
ones afterwards; one that runs commands names the state only then. A sequence is told of once and
last if it attempted anything, and a line that is run by its id is told of once. An observer that
subscribes then, and after each operation copies anew what the events name, holds the state and
the queue of the session after any further run. -/
theorem events_keep_observers_current (content : Buffer) (settings : Settings)
    (before : List Operation) :
    let run := (start content settings).performAll before
    let s := run.session
    (∀ op, Announced s op (s.perform op)) ∧
    (let trace := s.runPending.answer
      let commits : List Event := if trace = [] then [] else
        [.sequenceCommitted trace.length (trace.countP fun e => !e.outcome.success)]
      s.runPending.events.filter Event.isCommit = commits ∧ commits <:+ s.runPending.events) ∧
    (∀ id o, (s.perform (.executeLine id)).answer = .outcome o →
      (s.perform (.executeLine id)).events.filter Event.isExecution =
        [.commandExecuted id o.success]) ∧
    ∀ after,
      let w := after.foldl Watch.perform (.start s (Bus.fresh.emitAll run.events))
      w.session = (s.performAll after).session ∧
        w.state = w.session.state ∧ w.queue = w.session.queue := by
  intro run s
  refine ⟨fun op => (perform_effect s op).announced, s.commits_runPending,
    fun id o => executions_executeLine, fun after => ?_⟩
  have hbus := Bus.emitAll_eq (Nat.one_pos : 0 < Bus.fresh.handles) Bus.fresh_full run.events
  have hstart := Watch.start_current s (b := Bus.fresh.emitAll run.events)
    (by rw [hbus]; exact Nat.one_pos) (Bus.fresh_full.emitAll run.events)
  obtain ⟨hcurrent, hsession⟩ := hstart.performAll after
  exact ⟨hsession, hcurrent.state, hcurrent.queue⟩

/-- A queued line that has nothing to delete is told of as failed. -/
theorem failed_line_told_of_once :
    let s := ((start ⟨[]⟩ {}).performAll [.enqueue "DELETE".toList]).session
    (∃ o, (s.perform (.executeLine (.made 0))).answer = .outcome o) ∧
      (s.perform (.executeLine (.made 0))).events.filter Event.isExecution =
        [.commandExecuted (.made 0) false] := by
  intro s
  have hanswer : (s.perform (.executeLine (.made 0))).answer =
      .outcome (Command.attempt "DELETE".toList s.state) := rfl
  obtain ⟨-, -, hexecuted, -⟩ :=
    events_keep_observers_current ⟨[]⟩ {} [.enqueue "DELETE".toList]
  refine ⟨⟨_, hanswer⟩, ?_⟩
  rw [hexecuted (.made 0) _ hanswer]
  rfl

end Session
end EditScript
