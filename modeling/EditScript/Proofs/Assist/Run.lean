import Mathlib.Data.List.Induction
import EditScript.Assist.Schedule
import EditScript.Proofs.Change

/-!
# Runs of a dialogue

Everything that an action can do to a dialogue, said once, and how a proof about all runs goes.

* `Dialogue.startInSlot_of_busy`: while the slot is busy, nothing is started and nothing changes.
* `Dialogue.Effect`, `Dialogue.act_effect`: the cases of `Dialogue.act`, each with its condition. A
  proof about all actions is a case analysis of `Dialogue.Effect`; `Dialogue.Idle` are the cases in
  which nothing changes.
* `Dialogue.Touch`, `Dialogue.Effect.touch`: the same for one task. It goes on, an answer comes for
  it, it is called off, or the action leaves it as it is.
* `Dialogue.noted`: what is noted along a run, action by action.
* `Dialogue.run_keeps`, `Dialogue.noted_keeps`: what holds of no actions, and is kept by one more
  action, holds of every run.
-/

namespace EditScript

open Assist

/-! ## Tasks -/

namespace Assist

namespace Task

variable {a : Assistant} {clock : Nat} {t : Task} {transport : Transport}

theorem isFinished_iff : t.isFinished = true ↔ ∃ r, t.progress = .finished r := by
  unfold isFinished
  cases t.progress <;> simp

theorem isFinished_eq_false_iff : t.isFinished = false ↔ ∀ r, t.progress ≠ .finished r := by
  unfold isFinished
  cases t.progress <;> simp

theorem request_await (deadline : Nat) : (t.await a clock deadline).request = t.request := by
  unfold await
  split <;> rfl

theorem request_poll : (t.poll a clock transport).1.request = t.request := by
  unfold poll
  split
  · rfl
  · rfl
  · rfl
  · exact request_await _
  · split
    · rfl
    · exact request_await _

theorem request_receive (answer : Except Error Reply) : (t.receive answer).request = t.request := by
  unfold receive
  split <;> rfl

theorem request_abort : t.abort.request = t.request := by
  unfold abort
  split <;> rfl

/-- A task that does not begin by going on leaves the transport alone. -/
theorem poll_transport (h : t.progress ≠ .queued) : (t.poll a clock transport).2 = transport := by
  unfold poll
  cases hp : t.progress with
  | queued => exact absurd hp h
  | waiting | answered | calledOff | finished => rfl

theorem poll_transport_of_queued (h : t.progress = .queued) :
    (t.poll a clock transport).2 = (transport.send t.request).2 := by
  unfold poll
  rw [h]
  rcases transport.send t.request with ⟨_ | answer, next⟩ <;> rfl

end Task

namespace Desk

variable {a : Assistant} {d : Desk} {task : Nat} {t : Task}

theorem isFinished_eq_false_iff :
    d.isFinished task = false ↔ ∃ t, d.tasks[task]? = some t ∧ t.isFinished = false := by
  unfold isFinished
  cases d.tasks[task]? <;> simp

theorem result?_eq_some_iff {r : Result} :
    d.result? task = some r ↔ ∃ t, d.tasks[task]? = some t ∧ t.progress = .finished r := by
  unfold result?
  cases d.tasks[task]? with
  | none => simp
  | some t => cases h : t.progress <;> simp [h]

theorem isFinished_of_result? {r : Result} (h : d.result? task = some r) :
    d.isFinished task = true := by
  obtain ⟨t, ht, hp⟩ := result?_eq_some_iff.1 h
  rw [isFinished, ht]
  exact Task.isFinished_iff.2 ⟨r, hp⟩

theorem isBusy_eq_true_iff :
    d.isBusy = true ↔ ∃ task, d.slot = some task ∧ d.isFinished task = false := by
  unfold isBusy
  cases d.slot <;> simp

theorem poll_eq (h : d.tasks[task]? = some t) :
    d.poll a task = { d with
      tasks := d.tasks.set task (t.poll a d.clock d.transport).1
      transport := (t.poll a d.clock d.transport).2 } := by
  unfold poll
  rw [h]

theorem poll_of_none (h : d.tasks[task]? = none) : d.poll a task = d := by
  unfold poll
  rw [h]

end Desk

end Assist

namespace Dialogue

/-! ## Starts -/

/-- **A start that is refused leaves no trace**, whatever it would have started. -/
theorem startInSlot_of_busy {d : Dialogue} (hb : d.desk.isBusy = true) (start : InPlace Nat)
    (past : List Event) : startInSlot start ⟨d, past⟩ = .error .busy ⟨d, past⟩ := by
  unfold startInSlot
  rw [Live.bind_now, hb]
  rfl

/-- What is started takes the slot. -/
theorem startInSlot_of_free {d next : Dialogue} (hb : d.desk.isBusy = false) {start : InPlace Nat}
    {past events : List Event} {task : Nat} (h : start ⟨d, past⟩ = .ok task ⟨next, events⟩) :
    startInSlot start ⟨d, past⟩ =
      .ok () ⟨{ next with desk := { next.desk with slot := some task } }, events⟩ := by
  have hfree : startInSlot start ⟨d, past⟩ = (start >>= fun task => Live.update fun d =>
      ((), { d with desk := { d.desk with slot := some task } })) ⟨d, past⟩ := by
    unfold startInSlot
    rw [Live.bind_now, hb]
    rfl
  rw [hfree, Change.bind_of_ok h]
  rfl

/-- The request of a new task shows the session as it was before the instruction was logged; the
log is not shown. -/
theorem send_eq (d : Dialogue) (instruction : Text) (past : List Event) :
    send instruction ⟨d, past⟩ = .ok d.desk.tasks.length
      ⟨{ d with
          session := (d.session.recordInstruction instruction).session
          desk := { d.desk with
            tasks := d.desk.tasks ++ [⟨d.request instruction, .queued⟩] } }, past⟩ := by
  have hlogged : onSession (fun s => s.recordInstruction instruction) ⟨d, past⟩ = .ok ()
      ⟨{ d with session := (d.session.recordInstruction instruction).session }, past ++ []⟩ := rfl
  rw [List.append_nil] at hlogged
  unfold send
  rw [Change.bind_of_ok hlogged]
  rfl

theorem perform_ask_of_busy {d : Dialogue} (hb : d.desk.isBusy = true) (instruction : Text) :
    d.perform (.ask instruction) = ⟨.refused .busy, d, []⟩ := by
  rw [perform, ask, startInSlot_of_busy hb]

theorem perform_ask_of_free {d : Dialogue} (hb : d.desk.isBusy = false) (instruction : Text) :
    d.perform (.ask instruction) = ⟨.done,
      { d with
        session := (d.session.recordInstruction instruction).session
        desk := { d.desk with
          tasks := d.desk.tasks ++ [⟨d.request instruction, .queued⟩]
          slot := some d.desk.tasks.length } }, []⟩ := by
  rw [perform, ask, startInSlot_of_free hb (send_eq d instruction [])]

/-! ## Actions -/

/-- The requests that an action calls off, whether they have ended or not. -/
def callsOff (d : Dialogue) : Action → List Nat
  | .cancel => if d.desk.awaited.isSome then [] else d.desk.slot.toList
  | .cancelTask task => if task < d.desk.tasks.length then [task] else []
  | _ => []

/-- The request that an action waits for. -/
def waitsFor (d : Dialogue) : Action → Option Nat
  | .wait => d.desk.awaited.or d.desk.slot
  | .waitTaken task => if task ∈ d.desk.taken then some task else none
  | _ => none

/-- The action takes the slot. -/
def Action.takesSlot : Action → Bool
  | .ask _ | .cancel | .take => true
  | _ => false

theorem Action.eq_of_takesSlot {x : Action} (h : x.takesSlot = true) :
    (∃ instruction, x = .ask instruction) ∨ x = .cancel ∨ x = .take := by
  cases x with
  | ask instruction => exact .inl ⟨instruction, rfl⟩
  | cancel => exact .inr (.inl rfl)
  | take => exact .inr (.inr rfl)
  | edit | poll | receive | pass | cancelTask | letGo | wait | waitTaken => cases h

/-- The time that an action lets pass. -/
def Action.seconds : Action → Nat
  | .pass seconds => seconds
  | _ => 0

/-- Why an action changes nothing, and what it answers then. -/
inductive Idle (d : Dialogue) : Action → Option Answer → Prop
  | blocked {x : Action} (hx : x.takesSlot = true) (hw : d.desk.awaited.isSome = true) :
      Idle d x none
  | busy (instruction : Text) (hw : d.desk.awaited = none) (hb : d.desk.isBusy = true) :
      Idle d (.ask instruction) (some (.refused .busy))
  | notFound {x : Action} (hx : x = .cancel ∨ x = .take) (hw : d.desk.awaited = none)
      (hs : d.desk.slot = none) : Idle d x (some (.found false))
  | notThere {x : Action} {task : Nat} (hx : x = .poll task ∨ x = .cancelTask task)
      (h : d.desk.tasks.length ≤ task) : Idle d x (some .done)
  | nothingAwaited (hs : d.desk.awaited.or d.desk.slot = none) : Idle d .wait (some (.result none))
  | unfinished {task : Nat} (hm : task ∈ d.desk.taken) (hr : d.desk.result? task = none) :
      Idle d (.waitTaken task) none
  | notTaken {task : Nat} (hm : task ∉ d.desk.taken) : Idle d (.waitTaken task) none

/-- What an action does to a dialogue: the cases of `Dialogue.act`. -/
inductive Effect (d : Dialogue) : Action → Turn → Prop
  | idle {x : Action} {answer : Option Answer} (h : Idle d x answer) : Effect d x ⟨answer, d, []⟩
  | edit (op : Session.Operation) :
      Effect d (.edit op) ⟨some (.session (d.session.perform op).answer),
        { d with session := (d.session.perform op).session }, (d.session.perform op).events⟩
  | asked (instruction : Text) (hw : d.desk.awaited = none) (hb : d.desk.isBusy = false) :
      Effect d (.ask instruction) ⟨some .done,
        { d with
          session := (d.session.recordInstruction instruction).session
          desk := { d.desk with
            tasks := d.desk.tasks ++ [⟨d.request instruction, .queued⟩]
            slot := some d.desk.tasks.length } }, []⟩
  | polled {task : Nat} {t : Task} (h : d.desk.tasks[task]? = some t) :
      Effect d (.poll task) ⟨some .done, { d with desk := { d.desk with
        tasks := d.desk.tasks.set task (t.poll d.assistant d.desk.clock d.desk.transport).1
        transport := (t.poll d.assistant d.desk.clock d.desk.transport).2 } }, []⟩
  | received (task : Nat) (answer : Except Error Reply) :
      Effect d (.receive task answer) ⟨some .done,
        { d with desk := d.desk.receive task answer }, []⟩
  | passed (seconds : Nat) :
      Effect d (.pass seconds) ⟨some .done, { d with desk := d.desk.pass seconds }, []⟩
  | canceled {task : Nat} (hw : d.desk.awaited = none) (hs : d.desk.slot = some task) :
      Effect d .cancel ⟨some (.found true), { d with desk := d.desk.abort task }, []⟩
  | canceledTask {task : Nat} (h : task < d.desk.tasks.length) :
      Effect d (.cancelTask task) ⟨some .done, { d with desk := d.desk.abort task }, []⟩
  | taken {task : Nat} (hw : d.desk.awaited = none) (hs : d.desk.slot = some task) :
      Effect d .take ⟨some (.found true), { d with desk := { d.desk with
        slot := none, taken := task :: d.desk.taken } }, []⟩
  | letGo (task : Nat) :
      Effect d (.letGo task) ⟨some .done, { d with desk := d.desk.letGo task }, []⟩
  | collected {task : Nat} {r : Result} (hs : d.desk.awaited.or d.desk.slot = some task)
      (hr : d.desk.result? task = some r) :
      Effect d .wait ⟨some (.result (some r)), { d with desk := { d.desk with
        slot := none, awaited := none } }, []⟩
  | waiting {task : Nat} (hs : d.desk.awaited.or d.desk.slot = some task)
      (hr : d.desk.result? task = none) :
      Effect d .wait ⟨none, { d with desk := { d.desk with
        slot := none, awaited := some task } }, []⟩
  | collectedTaken {task : Nat} {r : Result} (hm : task ∈ d.desk.taken)
      (hr : d.desk.result? task = some r) :
      Effect d (.waitTaken task) ⟨some (.result (some r)),
        { d with desk := d.desk.letGo task }, []⟩

variable {d : Dialogue} {x : Action} {turn : Turn} {task : Nat} {t t' : Task}

/-- While a task is waited for, an action that takes the slot changes nothing. -/
theorem withSlot_effect (hx : x.takesSlot = true)
    (h : d.desk.awaited = none → Effect d x turn) : Effect d x (d.withSlot turn) := by
  unfold withSlot
  cases hw : d.desk.awaited with
  | none => exact h hw
  | some task => exact .idle (.blocked hx (by simp [hw]))

theorem collect_eq (task : Nat) (ended waiting : Desk) :
    d.collect task ended waiting =
      ⟨(d.desk.result? task).map fun r => .result (some r),
        { d with desk := if (d.desk.result? task).isSome then ended else waiting }, []⟩ := by
  unfold collect
  cases d.desk.result? task <;> rfl

/-- **What an action does to a dialogue** is one of the cases of `Dialogue.Effect`. -/
theorem act_effect (d : Dialogue) (x : Action) : Effect d x (d.act x) := by
  cases x with
  | edit op => exact .edit op
  | ask instruction =>
    refine withSlot_effect rfl fun hw => ?_
    cases hb : d.desk.isBusy with
    | true =>
      rw [perform_ask_of_busy hb]
      exact .idle (.busy instruction hw hb)
    | false =>
      rw [perform_ask_of_free hb]
      exact .asked instruction hw hb
  | poll task =>
    rw [act]
    cases h : d.desk.tasks[task]? with
    | none =>
      rw [Desk.poll_of_none h]
      exact .idle (.notThere (.inl rfl) (List.getElem?_eq_none_iff.1 h))
    | some t =>
      rw [Desk.poll_eq h]
      exact .polled h
  | receive task answer => exact .received task answer
  | pass seconds => exact .passed seconds
  | cancel =>
    refine withSlot_effect rfl fun hw => ?_
    unfold Desk.abortSlot
    cases hs : d.desk.slot with
    | none => exact .idle (.notFound (.inl rfl) hw hs)
    | some task => exact .canceled hw hs
  | cancelTask task =>
    rcases Nat.lt_or_ge task d.desk.tasks.length with h | h
    · exact .canceledTask h
    · rw [act, Desk.abort, List.modify_eq_self h]
      exact .idle (.notThere (.inr rfl) h)
  | take =>
    refine withSlot_effect rfl fun hw => ?_
    cases hs : d.desk.slot with
    | none =>
      have hdesk : d.desk.takeSlot = d.desk := by
        unfold Desk.takeSlot
        rw [hs]
        exact congrArg (fun slot => { d.desk with slot := slot }) hs.symm
      rw [hdesk]
      exact .idle (.notFound (.inr rfl) hw hs)
    | some task =>
      unfold Desk.takeSlot
      rw [hs]
      exact .taken hw hs
  | letGo task => exact .letGo task
  | wait =>
    rw [act]
    cases hs : d.desk.awaited.or d.desk.slot with
    | none => exact .idle (.nothingAwaited hs)
    | some task =>
      simp only [collect_eq]
      cases hr : d.desk.result? task with
      | none => exact .waiting hs hr
      | some r => exact .collected hs hr
  | waitTaken task =>
    rw [act]
    split
    · rename_i hm
      rw [collect_eq]
      cases hr : d.desk.result? task with
      | none => exact .idle (.unfinished hm hr)
      | some r => exact .collectedTaken hm hr
    · exact .idle (.notTaken ‹_›)

/-! ## Single tasks -/

/-- What an action does to one task. -/
inductive Touch (d : Dialogue) (x : Action) (task : Nat) (t : Task) : Task → Prop
  | left (hp : x ≠ .poll task) (hr : ∀ answer, x ≠ .receive task answer)
      (hc : task ∉ d.callsOff x) : Touch d x task t t
  | polled (h : x = .poll task) :
      Touch d x task t (t.poll d.assistant d.desk.clock d.desk.transport).1
  | received {answer : Except Error Reply} (h : x = .receive task answer) :
      Touch d x task t (t.receive answer)
  | calledOff (h : task ∈ d.callsOff x) : Touch d x task t t.abort

theorem Idle.callsOff {answer : Option Answer} (h : Idle d x answer) : d.callsOff x = [] := by
  cases h with
  | blocked hx hw =>
    rcases Action.eq_of_takesSlot hx with ⟨_, rfl⟩ | rfl | rfl
    · rfl
    · exact if_pos hw
    · rfl
  | busy | nothingAwaited | unfinished | notTaken => rfl
  | notFound hx hw hs => rcases hx with rfl | rfl <;> simp [Dialogue.callsOff, hs]
  | notThere hx h =>
    rcases hx with rfl | rfl
    · rfl
    · exact if_neg (Nat.not_lt.2 h)

theorem Idle.left {answer : Option Answer} (h : Idle d x answer) (ht : task < d.desk.tasks.length)
    (t : Task) : Touch d x task t t := by
  refine .left (fun hx => ?_) (fun _ hx => ?_) (by simp [h.callsOff])
  · subst hx
    cases h with
    | blocked hx => cases hx
    | notFound hx => rcases hx with hx | hx <;> cases hx
    | notThere hx hlen =>
      rcases hx with hx | hx <;> cases hx
      exact absurd hlen (Nat.not_le.2 ht)
  · subst hx
    cases h with
    | blocked hx => cases hx
    | notFound hx | notThere hx => rcases hx with hx | hx <;> cases hx

/-- **What an action does to a task** that was started before. -/
theorem Effect.touch (he : Effect d x turn) (h : d.desk.tasks[task]? = some t) :
    ∃ t', turn.dialogue.desk.tasks[task]? = some t' ∧ Touch d x task t t' := by
  have ht : task < d.desk.tasks.length := (List.getElem?_eq_some_iff.1 h).1
  cases he with
  | idle hi => exact ⟨t, h, hi.left ht t⟩
  | edit | passed | taken | letGo | collected | waiting | collectedTaken =>
    exact ⟨t, h, .left nofun nofun nofun⟩
  | asked => exact ⟨t, by rwa [List.getElem?_append_left ht], .left nofun nofun nofun⟩
  | @polled other u hu =>
    by_cases ho : other = task
    · subst ho
      obtain rfl := Option.some.inj (hu.symm.trans h)
      exact ⟨_, List.getElem?_set_self ht, .polled rfl⟩
    · refine ⟨t, by rwa [List.getElem?_set_ne ho], .left (fun he => ho ?_) nofun nofun⟩
      cases he
      rfl
  | received other answer =>
    by_cases ho : other = task
    · subst ho
      exact ⟨_, by simp [Desk.receive, h], .received rfl⟩
    · refine ⟨t, by simp [Desk.receive, ho, h],
        .left nofun (fun _ he => ho ?_) nofun⟩
      cases he
      rfl
  | @canceled other hw hs =>
    by_cases ho : other = task
    · subst ho
      exact ⟨_, by simp [Desk.abort, h], .calledOff (by simp [callsOff, hw, hs])⟩
    · exact ⟨t, by simp [Desk.abort, ho, h],
        .left nofun nofun (by simp [callsOff, hw, hs, Ne.symm ho])⟩
  | @canceledTask other hlt =>
    by_cases ho : other = task
    · subst ho
      exact ⟨_, by simp [Desk.abort, h], .calledOff (by simp [callsOff, hlt])⟩
    · exact ⟨t, by simp [Desk.abort, ho, h],
        .left nofun nofun (by simp [callsOff, hlt, Ne.symm ho])⟩

theorem Touch.request (h : Touch d x task t t') : t'.request = t.request := by
  cases h with
  | left => rfl
  | polled => exact Task.request_poll
  | received => exact Task.request_receive _
  | calledOff => exact Task.request_abort

/-- A task that has ended stays as it is. -/
theorem Touch.finished (h : Touch d x task t t') {r : Result} (hp : t.progress = .finished r) :
    t' = t := by
  cases h with
  | left => rfl
  | polled => simp [Task.poll, hp]
  | received => simp [Task.receive, hp]
  | calledOff => simp [Task.abort, Task.isFinished, hp]

/-- Waiting for a request gives the result that is there, and nothing as long as there is none. -/
theorem answer_of_waitsFor (h : d.waitsFor x = some task) :
    (d.act x).answer = (d.desk.result? task).map fun r => .result (some r) := by
  unfold waitsFor at h
  split at h
  · simp only [act, h, collect_eq]
  · split at h
    · rename_i hm
      cases h
      simp only [act, if_pos hm, collect_eq]
    · cases h
  · cases h

/-- Without a request that the slot is for, there is nothing to wait for. -/
theorem wait_of_none (h : d.waitsFor .wait = none) :
    d.act .wait = ⟨some (.result none), d, []⟩ := by
  have hnone : d.desk.awaited.or d.desk.slot = none := h
  simp only [act, hnone]
  rfl

theorem Effect.assistant (he : Effect d x turn) : turn.dialogue.assistant = d.assistant := by
  cases he <;> rfl

/-- Time passes only in the action that says so. -/
theorem Effect.clock (he : Effect d x turn) :
    turn.dialogue.desk.clock = d.desk.clock + x.seconds := by
  cases he with
  | idle hi =>
    cases hi with
    | blocked hx => rcases Action.eq_of_takesSlot hx with ⟨_, rfl⟩ | rfl | rfl <;> rfl
    | notFound hx | notThere hx => rcases hx with rfl | rfl <;> rfl
    | busy | nothingAwaited | unfinished | notTaken => rfl
  | edit | asked | polled | received | passed | canceled | canceledTask | taken | letGo | collected
  | waiting | collectedTaken => rfl

theorem Effect.clock_le (he : Effect d x turn) : d.desk.clock ≤ turn.dialogue.desk.clock := by
  rw [he.clock]
  exact Nat.le_add_right ..

/-- **A result that is there stays there.** -/
theorem result?_act {r : Result} (h : d.desk.result? task = some r) (x : Action) :
    (d.act x).dialogue.desk.result? task = some r := by
  obtain ⟨t, ht, hp⟩ := Desk.result?_eq_some_iff.1 h
  obtain ⟨t', ht', htouch⟩ := (act_effect d x).touch ht
  exact Desk.result?_eq_some_iff.2 ⟨t', ht', by rw [htouch.finished hp, hp]⟩

/-! ## Notes -/

/-- A request that was started for an instruction. -/
structure Asked where
  /-- The number of its task. -/
  task : Nat
  /-- The instruction. -/
  instruction : Text
  /-- The state of the session at that moment. -/
  state : State

/-- The request that an action starts, as its answer tells. -/
def asks (d : Dialogue) (x : Action) (turn : Turn) : List Asked :=
  match turn.answer, x with
  | some .done, .ask instruction => [⟨d.desk.tasks.length, instruction, d.session.state⟩]
  | _, _ => []

theorem Idle.asks {answer : Option Answer} (h : Idle d x answer) :
    asks d x ⟨answer, d, []⟩ = [] := by
  cases h with
  | notThere hx => rcases hx with rfl | rfl <;> rfl
  | blocked | busy | notFound | nothingAwaited | unfinished | notTaken => rfl

theorem mem_asks {q : Asked} : q ∈ asks d x turn ↔ x = .ask q.instruction ∧
    turn.answer = some .done ∧ q.task = d.desk.tasks.length ∧ q.state = d.session.state := by
  obtain ⟨task, instruction, state⟩ := q
  unfold asks
  constructor
  · intro hq
    split at hq
    · rename_i hdone
      cases List.mem_singleton.1 hq
      exact ⟨rfl, hdone, rfl, rfl⟩
    · cases hq
  · rintro ⟨rfl, hdone, rfl, rfl⟩
    simp [hdone]

/-- A request that reaches the transport. -/
structure Handover where
  /-- The number of its task. -/
  task : Nat
  /-- The request. -/
  request : Request
  /-- The time. -/
  time : Nat

/-- The request that reaches the transport in an action: that of a task that runs for the first
time. -/
def handsOver (d : Dialogue) : Action → List Handover
  | .poll task =>
    match d.desk.tasks[task]? with
    | some ⟨request, .queued⟩ => [⟨task, request, d.desk.clock⟩]
    | _ => []
  | _ => []

theorem mem_handsOver {h : Handover} : h ∈ d.handsOver x ↔
    x = .poll h.task ∧ d.desk.tasks[h.task]? = some ⟨h.request, .queued⟩ ∧
      h.time = d.desk.clock := by
  obtain ⟨task, request, time⟩ := h
  unfold handsOver
  constructor
  · intro hm
    split at hm
    · split at hm
      · rename_i hq
        cases List.mem_singleton.1 hm
        exact ⟨rfl, hq, rfl⟩
      · cases hm
    · cases hm
  · rintro ⟨rfl, hq, rfl⟩
    simp [hq]

theorem handsOver_poll (ht : d.desk.tasks[task]? = some t) (hp : t.progress = .queued) :
    d.handsOver (.poll task) = [⟨task, t.request, d.desk.clock⟩] := by
  obtain ⟨request, progress⟩ := t
  cases hp
  simp [handsOver, ht]

/-- At most one request reaches the transport in an action. -/
theorem handsOver_eq (d : Dialogue) (x : Action) :
    d.handsOver x = [] ∨ ∃ h, d.handsOver x = [h] := by
  unfold handsOver
  split
  · split
    · exact .inr ⟨_, rfl⟩
    · exact .inl rfl
  · exact .inl rfl

/-- No request reaches the transport in an action that calls one off. -/
theorem handsOver_of_callsOff (h : task ∈ d.callsOff x) : d.handsOver x = [] := by
  cases x with
  | cancel | cancelTask => rfl
  | edit | ask | poll | receive | pass | take | letGo | wait | waitTaken => cases h

/-- Only a request that reaches the transport changes it. -/
theorem Effect.transport (he : Effect d x turn) : turn.dialogue.desk.transport =
    (d.handsOver x).foldl (fun transport h => (transport.send h.request).2) d.desk.transport := by
  cases he with
  | idle h =>
    have hnil : d.handsOver x = [] := by
      refine List.eq_nil_iff_forall_not_mem.2 fun o ho => ?_
      obtain ⟨rfl, hq, -⟩ := mem_handsOver.1 ho
      cases h with
      | blocked hx => cases hx
      | notFound hx => rcases hx with hx | hx <;> cases hx
      | notThere hx hlen =>
        rcases hx with hx | hx <;> cases hx
        rw [List.getElem?_eq_none hlen] at hq
        cases hq
    rw [hnil]
    rfl
  | @polled task t h =>
    obtain ⟨request, progress⟩ := t
    cases progress with
    | queued =>
      simp only [handsOver, h]
      exact Task.poll_transport_of_queued rfl
    | waiting | answered | calledOff | finished =>
      simp only [handsOver, h]
      exact Task.poll_transport nofun
  | edit | asked | received | passed | canceled | canceledTask | taken | letGo | collected
  | waiting | collectedTaken => rfl

/-- A task is there because it was there before, or because the action started it. -/
theorem Effect.touch_or_asked (he : Effect d x turn)
    (h : turn.dialogue.desk.tasks[task]? = some t') :
    (∃ t, d.desk.tasks[task]? = some t ∧ Touch d x task t t') ∨
      ∃ instruction, asks d x turn = [⟨task, instruction, d.session.state⟩] ∧
        t' = ⟨d.request instruction, .queued⟩ := by
  cases ht : d.desk.tasks[task]? with
  | some t =>
    obtain ⟨u, hu, htouch⟩ := he.touch ht
    obtain rfl := Option.some.inj (hu.symm.trans h)
    exact .inl ⟨t, rfl, htouch⟩
  | none =>
    have hlen := List.getElem?_eq_none_iff.1 ht
    cases he with
    | asked instruction hw hb =>
      simp only [List.getElem?_append_right hlen] at h
      obtain ⟨hzero, hlast⟩ := List.getElem?_eq_some_iff.1 h
      have htask : task = d.desk.tasks.length := by
        rw [List.length_singleton] at hzero
        omega
      subst htask
      simp only [Nat.sub_self] at hlast
      exact .inr ⟨instruction, rfl, hlast.symm⟩
    | polled | received | canceled | canceledTask =>
      have hlt := (List.getElem?_eq_some_iff.1 h).1
      simp only [Desk.receive, Desk.abort, List.length_set, List.length_modify] at hlt
      omega
    | idle | edit | passed | taken | letGo | collected | waiting | collectedTaken =>
      have hlt := (List.getElem?_eq_some_iff.1 h).1
      exact absurd hlen (Nat.not_le.2 hlt)

theorem Effect.length_tasks (he : Effect d x turn) :
    turn.dialogue.desk.tasks.length = d.desk.tasks.length + (asks d x turn).length := by
  cases he with
  | idle h =>
    rw [h.asks]
    rfl
  | asked => exact List.length_append
  | edit | passed | taken | letGo | collected | waiting | collectedTaken => rfl
  | polled | received | canceled | canceledTask =>
    simp [asks, Desk.receive, Desk.abort]

/-! ## Runs -/

/-- What is noted along a run, action by action. -/
def noted {α : Type} (note : Dialogue → Action → Turn → List α) : Dialogue → List Action → List α
  | _, [] => []
  | d, x :: xs => note d x (d.act x) ++ noted note (d.act x).dialogue xs

theorem after_append (d : Dialogue) (xs ys : List Action) :
    d.after (xs ++ ys) = (d.after xs).after ys := List.foldl_append

theorem after_concat (d : Dialogue) (xs : List Action) (x : Action) :
    d.after (xs ++ [x]) = ((d.after xs).act x).dialogue := d.after_append xs [x]

theorem noted_append {α : Type} (note : Dialogue → Action → Turn → List α) (d : Dialogue)
    (xs ys : List Action) :
    noted note d (xs ++ ys) = noted note d xs ++ noted note (d.after xs) ys := by
  induction xs generalizing d with
  | nil => rfl
  | cons x xs ih =>
    show note d x (d.act x) ++ noted note (d.act x).dialogue (xs ++ ys) = _
    rw [ih, ← List.append_assoc]
    rfl

theorem noted_concat {α : Type} (note : Dialogue → Action → Turn → List α) (d : Dialogue)
    (xs : List Action) (x : Action) : noted note d (xs ++ [x]) =
      noted note d xs ++ note (d.after xs) x ((d.after xs).act x) := by
  rw [noted_append]
  exact congrArg _ (List.append_nil _)

/-- What is noted along a run is noted in one of its actions. -/
theorem mem_noted {α : Type} {note : Dialogue → Action → Turn → List α} {d : Dialogue}
    {xs : List Action} {v : α} : v ∈ noted note d xs ↔
      ∃ ys x zs, xs = ys ++ x :: zs ∧ v ∈ note (d.after ys) x ((d.after ys).act x) := by
  constructor
  · intro hv
    induction xs generalizing d with
    | nil => cases hv
    | cons x xs ih =>
      rcases List.mem_append.1 hv with hv | hv
      · exact ⟨[], x, xs, rfl, hv⟩
      · obtain ⟨ys, y, zs, rfl, hy⟩ := ih hv
        exact ⟨x :: ys, y, zs, rfl, hy⟩
  · rintro ⟨ys, x, zs, rfl, hv⟩
    rw [noted_append]
    exact List.mem_append_right _ (List.mem_append_left _ hv)

/-- The requests that a run starts. -/
abbrev asked : Dialogue → List Action → List Asked := noted asks

/-- The requests that reach the transport in a run. -/
abbrev handovers : Dialogue → List Action → List Handover := noted fun d x _ => d.handsOver x

/-- The requests that a run calls off. -/
abbrev calledOff : Dialogue → List Action → List Nat := noted fun d x _ => d.callsOff x

/-- **What one more action keeps, every run keeps**, if it holds of no actions. -/
theorem run_keeps {P : List Action → Dialogue → Prop} (hnil : P [] d)
    (hconcat : ∀ xs x, P xs (d.after xs) → P (xs ++ [x]) ((d.after xs).act x).dialogue)
    (xs : List Action) : P xs (d.after xs) := by
  induction xs using List.reverseRecOn with
  | nil => exact hnil
  | append_singleton xs x ih =>
    rw [after_concat]
    exact hconcat xs x ih

/-- **What every action keeps, every run keeps**: a statement about a dialogue and what has been
noted on the way to it. -/
theorem noted_keeps {α : Type} {note : Dialogue → Action → Turn → List α}
    {P : List α → Dialogue → Prop} (hnil : P [] d)
    (hstep : ∀ {out d x turn}, Effect d x turn → P out d → P (out ++ note d x turn) turn.dialogue)
    (xs : List Action) : P (noted note d xs) (d.after xs) := by
  refine run_keeps (P := fun xs d' => P (noted note d xs) d') hnil (fun xs x h => ?_) xs
  rw [noted_concat]
  exact hstep (act_effect _ x) h

/-- The requests are numbered in the order in which they are started. -/
theorem asked_after (s : Session) (transport : Transport) (xs : List Action) :
    ((start s transport).asked xs).map Asked.task =
      List.range ((start s transport).after xs).desk.tasks.length := by
  refine noted_keeps (P := fun out d => out.map Asked.task = List.range d.desk.tasks.length) rfl
    (fun {out d x turn} he h => ?_) xs
  rw [he.length_tasks, List.map_append, h]
  unfold asks
  split
  · exact List.range_succ.symm
  · exact List.append_nil _

theorem assistant_after (d : Dialogue) (xs : List Action) :
    (d.after xs).assistant = d.assistant :=
  run_keeps (P := fun _ d' => d'.assistant = d.assistant) rfl
    (fun _ x ih => (act_effect _ x).assistant.trans ih) xs

theorem result?_after {r : Result} (h : d.desk.result? task = some r) (xs : List Action) :
    (d.after xs).desk.result? task = some r := by
  induction xs generalizing d with
  | nil => exact h
  | cons x xs ih => exact ih (result?_act h x)

end Dialogue

end EditScript
