import EditScript.Proofs.Assist.Custody

/-!
# Operations as schedules

An operation of a dialogue is a run of actions: the one that gives its name to the operation, and
those with which every task goes on, in the order in which the tasks were started.

* `Dialogue.sweep`, `Dialogue.after_sweep`: every task goes on once.
* `Dialogue.finishing`, `Dialogue.after_finishing`: tasks go on and time passes until one has ended.
* `Desk.exists_result_finish`: which it has then.
* `Dialogue.Schedule`, `Dialogue.exists_schedule`: the run that an operation is.
* `Dialogue.exists_actions`: whatever holds after every run of actions holds after every run of
  operations.
-/

namespace EditScript

open Assist

namespace Assist

variable {a : Assistant} {clock deadline : Nat}

/-- Each task goes on when its turn comes. -/
theorem Task.getElem?_pollAll (ts : List Task) (transport : Transport) (i : Nat) :
    ∃ transport', (pollAll a clock ts transport).1[i]? =
      ts[i]?.map fun t => (t.poll a clock transport').1 := by
  induction ts generalizing transport i with
  | nil => exact ⟨transport, rfl⟩
  | cons t ts ih =>
    cases i with
    | zero => exact ⟨transport, rfl⟩
    | succ i => exact ih (t.poll a clock transport).2 i

theorem Task.length_pollAll (ts : List Task) (transport : Transport) :
    (pollAll a clock ts transport).1.length = ts.length := by
  induction ts generalizing transport with
  | nil => rfl
  | cons t ts ih => exact congrArg (· + 1) (ih (t.poll a clock transport).2)

/-- Unless it waits for an answer, a task has ended once it has gone on. -/
theorem Task.finished_or_waiting_of_poll (a : Assistant) (clock : Nat) (t : Task)
    (transport : Transport) :
    (∃ r, (t.poll a clock transport).1.progress = .finished r) ∨
      ∃ deadline, (t.poll a clock transport).1.progress = .waiting deadline := by
  have hawait : ∀ deadline, (∃ r, (t.await a clock deadline).progress = .finished r) ∨
      ∃ deadline', (t.await a clock deadline).progress = .waiting deadline' := by
    intro deadline
    unfold await
    split
    · exact .inl ⟨_, rfl⟩
    · exact .inr ⟨_, rfl⟩
  cases hp : t.progress with
  | finished r => exact .inl ⟨r, by simp [poll, hp]⟩
  | calledOff | answered => exact .inl ⟨_, by simp [poll, hp, finish]; rfl⟩
  | waiting deadline => simpa [poll, hp] using hawait deadline
  | queued =>
    rcases hsend : transport.send t.request with ⟨_ | answer, next⟩
    · simpa [poll, hp, hsend] using hawait (a.deadline clock)
    · exact .inl ⟨_, by simp [poll, hp, hsend, finish]; rfl⟩

theorem Task.finished_of_deadline {t : Task} (transport : Transport)
    (hp : t.progress = .waiting deadline) (h : deadline ≤ clock) :
    (t.poll a clock transport).1.progress = .finished (.error (.timeout a.timeoutSeconds)) := by
  simp [poll, hp, await, h, finish]

namespace Desk

variable {d : Desk} {task : Nat}

theorem getElem?_tick (a : Assistant) (d : Desk) (task : Nat) :
    ∃ transport, (d.tick a).tasks[task]? =
      d.tasks[task]?.map fun t => (t.poll a d.clock transport).1 :=
  Task.getElem?_pollAll d.tasks d.transport task

/-- **Waiting for a task ends**, in a result of the task. -/
theorem exists_result_finish (a : Assistant) (h : task < d.tasks.length) :
    ∃ r, (d.finish a task).result? task = some r := by
  have ht : d.tasks[task]? = some d.tasks[task] := List.getElem?_eq_getElem h
  unfold finish
  split
  · rename_i hf
    rw [isFinished, ht, Option.all_some] at hf
    obtain ⟨r, hr⟩ := Task.isFinished_iff.1 hf
    exact ⟨r, result?_eq_some_iff.2 ⟨_, ht, hr⟩⟩
  · obtain ⟨transport, htick⟩ := getElem?_tick a d task
    rw [ht, Option.map_some] at htick
    rcases d.tasks[task].finished_or_waiting_of_poll a d.clock transport with
      ⟨r, hr⟩ | ⟨deadline, hw⟩
    · simp only [htick, Option.map_some, hr]
      exact ⟨r, result?_eq_some_iff.2 ⟨_, htick, hr⟩⟩
    · simp only [htick, Option.map_some, hw]
      obtain ⟨transport', hlast⟩ :=
        getElem?_tick a ((d.tick a).pass (deadline - (d.tick a).clock)) task
      have hpass : ((d.tick a).pass (deadline - (d.tick a).clock)).tasks[task]? =
          (d.tick a).tasks[task]? := rfl
      rw [hpass, htick, Option.map_some] at hlast
      refine ⟨_, result?_eq_some_iff.2 ⟨_, hlast, Task.finished_of_deadline transport' hw ?_⟩⟩
      simp only [pass]
      omega

theorem finish_of_isFinished (h : d.isFinished task = true) : d.finish a task = d := if_pos h

/-- How a task comes to its end has nothing to do with who holds it. -/
theorem exists_finish (a : Assistant) (d : Desk) (task : Nat) :
    ∃ clock transport tasks, ∀ slot awaited taken,
      { d with slot := slot, awaited := awaited, taken := taken }.finish a task =
        ⟨clock, transport, tasks, slot, awaited, taken⟩ := by
  refine ⟨(d.finish a task).clock, (d.finish a task).transport, (d.finish a task).tasks,
    fun slot awaited taken => ?_⟩
  by_cases hf : d.isFinished task = true
  · rw [finish_of_isFinished hf]
    exact finish_of_isFinished hf
  · have hplace : ¬{ d with slot := slot, awaited := awaited, taken := taken }.isFinished task =
      true := hf
    have htick : { d with slot := slot, awaited := awaited, taken := taken }.tick a =
      { d.tick a with slot := slot, awaited := awaited, taken := taken } := rfl
    unfold finish
    rw [if_neg hf, if_neg hplace]
    cases hp : ((d.tick a).tasks[task]?).map Task.progress with
    | none => simp only [htick, hp]
    | some progress =>
      cases progress with
      | waiting deadline => simp only [htick, hp]; rfl
      | queued | answered | calledOff | finished => simp only [htick, hp]

theorem awaited_finish (a : Assistant) (d : Desk) (task : Nat) :
    (d.finish a task).awaited = d.awaited := by
  obtain ⟨clock, transport, tasks, hplace⟩ := exists_finish a d task
  have hkept : d.finish a task = ⟨clock, transport, tasks, d.slot, d.awaited, d.taken⟩ :=
    hplace d.slot d.awaited d.taken
  rw [hkept]

/-- The tasks of a desk go on one after the other, from one on. -/
theorem foldl_poll (before rest : List Task) (transport : Transport) {slot awaited : Option Nat}
    {taken : List Nat} :
    (List.range' before.length rest.length).foldl (Desk.poll a)
        ⟨clock, transport, before ++ rest, slot, awaited, taken⟩ =
      ⟨clock, (Task.pollAll a clock rest transport).2,
        before ++ (Task.pollAll a clock rest transport).1, slot, awaited, taken⟩ := by
  induction rest generalizing before transport with
  | nil => rfl
  | cons t rest ih =>
    have hpoll : Desk.poll a ⟨clock, transport, before ++ t :: rest, slot, awaited, taken⟩
        before.length = ⟨clock, (t.poll a clock transport).2,
          (before ++ [(t.poll a clock transport).1]) ++ rest, slot, awaited, taken⟩ := by
      rw [poll_eq (t := t) (by simp)]
      simp
    have hrest := ih (before ++ [(t.poll a clock transport).1]) (t.poll a clock transport).2
    rw [List.length_append, List.length_singleton] at hrest
    rw [List.length_cons, List.range'_succ, List.foldl_cons, hpoll, hrest, List.append_assoc]
    rfl

theorem foldl_poll_range (a : Assistant) (d : Desk) :
    (List.range d.tasks.length).foldl (Desk.poll a) d = d.tick a := by
  rw [List.range_eq_range']
  exact foldl_poll [] d.tasks d.transport

end Desk

end Assist

namespace Dialogue

variable {d : Dialogue} {task : Nat} {out : List Nat}

/-! ## Tasks go on -/

/-- Every one of so many tasks goes on once. -/
def sweep (tasks : Nat) : List Action := (List.range tasks).map .poll

theorem after_sweep (d : Dialogue) :
    d.after (sweep d.desk.tasks.length) = { d with desk := d.desk.tick d.assistant } := by
  have hpolls : ∀ (tasks : List Nat) (d : Dialogue), d.after (tasks.map .poll) =
      { d with desk := tasks.foldl (Desk.poll d.assistant) d.desk } := by
    intro tasks
    induction tasks with
    | nil => exact fun _ => rfl
    | cons task tasks ih => exact fun d => ih (d.act (.poll task)).dialogue
  rw [sweep, hpolls, Desk.foldl_poll_range]

/-- Tasks go on, and time passes, until a task has ended. -/
def finishing (d : Dialogue) (task : Nat) : List Action :=
  if d.desk.isFinished task then []
  else
    sweep d.desk.tasks.length ++
      match ((d.desk.tick d.assistant).tasks[task]?).map Task.progress with
      | some (.waiting deadline) => .pass (deadline - d.desk.clock) :: sweep d.desk.tasks.length
      | _ => []

theorem after_finishing (d : Dialogue) (task : Nat) :
    d.after (d.finishing task) = { d with desk := d.desk.finish d.assistant task } := by
  have hlen : (d.desk.tick d.assistant).tasks.length = d.desk.tasks.length :=
    Task.length_pollAll d.desk.tasks d.desk.transport
  unfold finishing Desk.finish
  split
  · rfl
  · rw [after_append, after_sweep]
    cases hp : ((d.desk.tick d.assistant).tasks[task]?).map Task.progress with
    | none => simp only [hp]; rfl
    | some progress =>
      cases progress with
      | waiting deadline =>
        simp only [hp]
        rw [← hlen]
        exact after_sweep _
      | queued | answered | calledOff | finished => simp only [hp]; rfl

/-! ## Operations -/

/-- The action is no operation of the session. -/
def Action.isQuiet : Action → Prop
  | .edit _ => False
  | _ => True

theorem quiet_sweep (tasks : Nat) : ∀ x ∈ sweep tasks, x.isQuiet := by
  intro x hx
  obtain ⟨task, -, rfl⟩ := List.mem_map.1 hx
  trivial

theorem quiet_finishing (d : Dialogue) (task : Nat) : ∀ x ∈ d.finishing task, x.isQuiet := by
  unfold finishing
  split
  · exact fun _ hx => by cases hx
  · intro x hx
    rcases List.mem_append.1 hx with hx | hx
    · exact quiet_sweep _ x hx
    · split at hx
      · rcases List.mem_cons.1 hx with rfl | hx
        · trivial
        · exact quiet_sweep _ x hx
      · cases hx

theorem events_of_quiet (d : Dialogue) {xs : List Action} (h : ∀ x ∈ xs, x.isQuiet) :
    noted (fun _ _ turn => turn.events) d xs = [] := by
  refine List.eq_nil_iff_forall_not_mem.2 fun event hm => ?_
  obtain ⟨ys, x, zs, rfl, hx⟩ := mem_noted.1 hm
  have hquiet : x.isQuiet := h x (by simp)
  have he := act_effect (d.after ys) x
  generalize (d.after ys).act x = turn at he hx
  cases he with
  | edit => exact hquiet
  | idle | asked | polled | received | passed | canceled | canceledTask | taken | letGo
  | collected | waiting | collectedTaken => cases hx

/-- The run of actions that an operation is. One of them answers for it. -/
structure Schedule (d : Dialogue) (op : Operation) (before : List Action) (x : Action)
    (after : List Action) : Prop where
  dialogue : d.after (before ++ x :: after) = (d.perform op).dialogue
  events : noted (fun _ _ turn => turn.events) d (before ++ x :: after) = (d.perform op).events
  answer : op ≠ .cancelHeld → (op = .waitHeld → d.desk.taken ≠ []) →
    ((d.after before).act x).answer = some (d.perform op).answer

theorem Schedule.of_quiet {op : Operation} {before after : List Action} {x : Action}
    (hd : d.after (before ++ x :: after) = (d.perform op).dialogue)
    (hq : ∀ y ∈ before ++ x :: after, y.isQuiet) (hevents : (d.perform op).events = [])
    (ha : op ≠ .cancelHeld → (op = .waitHeld → d.desk.taken ≠ []) →
      ((d.after before).act x).answer = some (d.perform op).answer) :
    Schedule d op before x after :=
  ⟨hd, (events_of_quiet d hq).trans hevents.symm, ha⟩

/-- The tasks that were taken are let go of, one after the other. -/
theorem after_letGo (d : Dialogue) (taken : List Nat) (h : d.desk.taken = taken) :
    d.after (taken.map .letGo) = { d with desk := { d.desk with taken := [] } } := by
  induction taken generalizing d with
  | nil =>
    obtain ⟨session, assistant, desk⟩ := d
    obtain ⟨clock, transport, tasks, slot, awaited, taken⟩ := desk
    cases h
    rfl
  | cons task taken ih =>
    exact ih (d.act (.letGo task)).dialogue (by simp [act, atDesk, Turn.ofStep, Desk.letGo, h])

/-- Waiting for a task that was taken: it ends, and is waited for then. -/
theorem schedule_waitHeld (hc : d.desk.Custody out) (hheld : d.desk.held = some task) :
    Schedule d .waitHeld (d.finishing task) (.waitTaken task) [] := by
  have hm : task ∈ d.desk.taken := List.mem_of_head? hheld
  obtain ⟨r, hr⟩ := Desk.exists_result_finish d.assistant
    (hc.known task (List.mem_append_left _ (List.mem_append_right _ hm)))
  obtain ⟨clock, transport, tasks, hplace⟩ := Desk.exists_finish d.assistant d.desk task
  have hkept : d.desk.finish d.assistant task = ⟨clock, transport, tasks, d.desk.slot,
    d.desk.awaited, d.desk.taken⟩ := hplace d.desk.slot d.desk.awaited d.desk.taken
  have hgone : (d.desk.letGo task).finish d.assistant task = ⟨clock, transport, tasks, d.desk.slot,
    d.desk.awaited, d.desk.taken.erase task⟩ := hplace d.desk.slot d.desk.awaited _
  rw [hkept] at hr
  have hr' : (⟨clock, transport, tasks, d.desk.slot, d.desk.awaited,
    d.desk.taken.erase task⟩ : Desk).result? task = some r := hr
  have hact : (d.after (d.finishing task)).act (.waitTaken task) =
      .ofStep (d.perform .waitHeld) := by
    rw [after_finishing, hkept]
    simp only [act, if_pos hm, collect_eq, hr, perform, Desk.waitHeld, hheld, hgone, hr']
    rfl
  refine .of_quiet ?_ ?_ rfl fun _ _ => congrArg Turn.answer hact
  · rw [after_append]
    exact congrArg Turn.dialogue hact
  · intro y hy
    rcases List.mem_append.1 hy with hy | hy
    · exact quiet_finishing d task y hy
    · obtain rfl := List.mem_singleton.1 hy
      trivial

/-- Waiting for the task in the slot: it is taken out of the slot, ends, and is waited for again, if
it has not ended before. -/
theorem schedule_wait (hc : d.desk.Custody out) (hw : d.desk.awaited = none)
    (hs : d.desk.slot = some task) : ∃ before, Schedule d .wait before .wait [] := by
  have hlt : task < d.desk.tasks.length := hc.known task (by simp [Desk.handles, hs])
  obtain ⟨r, hr⟩ := Desk.exists_result_finish d.assistant hlt
  obtain ⟨clock, transport, tasks, hplace⟩ := Desk.exists_finish d.assistant d.desk task
  have hkept : d.desk.finish d.assistant task = ⟨clock, transport, tasks, d.desk.slot,
    d.desk.awaited, d.desk.taken⟩ := hplace d.desk.slot d.desk.awaited d.desk.taken
  have hempty : { d.desk with slot := none }.finish d.assistant task =
      ⟨clock, transport, tasks, none, none, d.desk.taken⟩ :=
    (hplace none d.desk.awaited d.desk.taken).trans (by rw [hw])
  rw [hkept] at hr
  have hresult : ∀ slot awaited, (⟨clock, transport, tasks, slot, awaited, d.desk.taken⟩ :
    Desk).result? task = some r := fun _ _ => hr
  have hperform : d.perform .wait = ⟨.result (some r),
      { d with desk := ⟨clock, transport, tasks, none, none, d.desk.taken⟩ }, []⟩ := by
    simp only [perform, Desk.wait, hs, hempty, hresult, atDesk]
  have hfor : d.desk.awaited.or d.desk.slot = some task := by rw [hw, hs]; rfl
  by_cases hf : d.desk.isFinished task = true
  · rw [Desk.finish_of_isFinished hf] at hkept
    have hact : d.act .wait = .ofStep (d.perform .wait) := by
      have hdesk : { d.desk with slot := none, awaited := none } =
          (⟨clock, transport, tasks, none, none, d.desk.taken⟩ : Desk) :=
        congrArg (fun e : Desk => { e with slot := none, awaited := none }) hkept
      have hthere : d.desk.result? task = some r := by rw [hkept]; exact hr
      rw [hperform]
      simp only [act, hfor, collect_eq, hthere, hdesk]
      rfl
    exact ⟨[], .of_quiet (congrArg Turn.dialogue hact) (by simp [Action.isQuiet]) rfl
      fun _ _ => congrArg Turn.answer hact⟩
  · have hnone : d.desk.result? task = none := by
      cases hres : d.desk.result? task with
      | none => rfl
      | some r' => exact absurd (Desk.isFinished_of_result? hres) hf
    let d' : Dialogue := { d with desk := { d.desk with slot := none, awaited := some task } }
    have hfirst : (d.act .wait).dialogue = d' := by
      simp only [act, hfor, collect_eq, hnone]
      rfl
    have hafter : d.after (.wait :: d'.finishing task) =
        { d with desk := ⟨clock, transport, tasks, none, some task, d.desk.taken⟩ } := by
      show (d.act .wait).dialogue.after _ = _
      rw [hfirst, after_finishing]
      exact congrArg (fun e => { d with desk := e }) (hplace none (some task) d.desk.taken)
    have hact : (d.after (.wait :: d'.finishing task)).act .wait = .ofStep (d.perform .wait) := by
      rw [hafter, hperform]
      simp only [act, Option.some_or, collect_eq, hresult]
      rfl
    refine ⟨.wait :: d'.finishing task, .of_quiet ?_ ?_ rfl fun _ _ => congrArg Turn.answer hact⟩
    · rw [after_append]
      exact congrArg Turn.dialogue hact
    · intro y hy
      rcases List.mem_append.1 hy with hy | hy
      · rcases List.mem_cons.1 hy with rfl | hy
        · trivial
        · exact quiet_finishing d' task y hy
      · obtain rfl := List.mem_singleton.1 hy
        trivial

/-- **Every operation is a run of actions.** -/
theorem exists_schedule (hc : d.desk.Custody out) (hw : d.desk.awaited = none) (op : Operation) :
    ∃ before x after, Schedule d op before x after := by
  have hquiet : ∀ x : Action, x.isQuiet →
      ∀ y ∈ [] ++ x :: sweep d.desk.tasks.length, y.isQuiet := by
    intro x hx y hy
    rcases List.mem_cons.1 hy with rfl | hy
    · exact hx
    · exact quiet_sweep _ y hy
  cases op with
  | session op => exact ⟨[], .edit op, [], rfl, List.append_nil _, fun _ _ => rfl⟩
  | ask instruction =>
    have hact : d.act (.ask instruction) = .ofStep (d.perform (.ask instruction)) := by
      simp [act, withSlot, hw]
    have hevents : (d.perform (.ask instruction)).events = [] := by
      cases hb : d.desk.isBusy with
      | true => rw [perform_ask_of_busy hb]
      | false => rw [perform_ask_of_free hb]
    exact ⟨[], .ask instruction, [], .of_quiet (congrArg Turn.dialogue hact)
      (by simp [Action.isQuiet]) hevents fun _ _ => congrArg Turn.answer hact⟩
  | tick =>
    exact ⟨[], .pass 0, sweep d.desk.tasks.length,
      .of_quiet (after_sweep d) (hquiet _ trivial) rfl fun _ _ => rfl⟩
  | advance seconds =>
    exact ⟨[], .pass seconds, sweep d.desk.tasks.length,
      .of_quiet (after_sweep (d.act (.pass seconds)).dialogue) (hquiet _ trivial) rfl
        fun _ _ => rfl⟩
  | cancel =>
    have hact : d.act .cancel = ⟨some (.found d.desk.slot.isSome),
        { d with desk := d.desk.abortSlot }, []⟩ := by
      simp [act, withSlot, hw, Turn.ofStep, atDesk]
    have hlen : d.desk.abortSlot.tasks.length = d.desk.tasks.length := by
      unfold Desk.abortSlot
      cases d.desk.slot <;> simp [Desk.abort]
    refine ⟨[], .cancel, sweep d.desk.tasks.length, .of_quiet ?_ (hquiet _ trivial) rfl
      fun _ _ => congrArg Turn.answer hact⟩
    show (d.act .cancel).dialogue.after _ = _
    rw [hact, ← hlen]
    exact after_sweep _
  | take =>
    have hgone := after_letGo d d.desk.taken rfl
    have hact : (d.after (d.desk.taken.map .letGo)).act .take =
        ⟨some (.found d.desk.take.1), { d with desk := d.desk.take.2 }, []⟩ := by
      rw [hgone]
      simp [act, withSlot, hw, Turn.ofStep, atDesk, Desk.take]
    refine ⟨d.desk.taken.map .letGo, .take, [], .of_quiet ?_ ?_ rfl
      fun _ _ => congrArg Turn.answer hact⟩
    · rw [after_append]
      exact congrArg Turn.dialogue hact
    · intro y hy
      rcases List.mem_append.1 hy with hy | hy
      · obtain ⟨task, -, rfl⟩ := List.mem_map.1 hy
        trivial
      · obtain rfl := List.mem_singleton.1 hy
        trivial
  | cancelHeld =>
    cases hheld : d.desk.held with
    | none =>
      refine ⟨[], .pass 0, sweep d.desk.tasks.length, .of_quiet ?_ (hquiet _ trivial) rfl
        fun h => absurd rfl h⟩
      simp only [perform, Desk.cancelHeld, hheld]
      exact after_sweep d
    | some task =>
      have hlen : (d.desk.abort task).tasks.length = d.desk.tasks.length := List.length_modify ..
      refine ⟨[], .cancelTask task, sweep d.desk.tasks.length, .of_quiet ?_ (hquiet _ trivial) rfl
        fun h => absurd rfl h⟩
      simp only [perform, Desk.cancelHeld, hheld]
      rw [← hlen]
      exact after_sweep (d.act (.cancelTask task)).dialogue
  | wait =>
    cases hs : d.desk.slot with
    | none =>
      have hfor : d.waitsFor .wait = none := by simp [waitsFor, hw, hs]
      have hact : d.act .wait = .ofStep (d.perform .wait) := by
        rw [wait_of_none hfor]
        simp only [perform, Desk.wait, hs]
        rfl
      exact ⟨[], .wait, [], .of_quiet (congrArg Turn.dialogue hact) (by simp [Action.isQuiet]) rfl
        fun _ _ => congrArg Turn.answer hact⟩
    | some task =>
      obtain ⟨before, h⟩ := schedule_wait hc hw hs
      exact ⟨before, .wait, [], h⟩
  | waitHeld =>
    cases hheld : d.desk.held with
    | none =>
      refine ⟨[], .pass 0, [], .of_quiet ?_ (by simp [Action.isQuiet]) rfl fun _ h => ?_⟩
      · simp only [perform, Desk.waitHeld, hheld]
        rfl
      · exact absurd (List.head?_eq_none_iff.1 hheld) (h rfl)
    | some task => exact ⟨d.finishing task, .waitTaken task, [], schedule_waitHeld hc hheld⟩

/-- No operation leaves a task that is still waited for through the slot. -/
theorem awaited_perform (hw : d.desk.awaited = none) (op : Operation) :
    (d.perform op).dialogue.desk.awaited = none := by
  cases op with
  | session | tick | advance | take => exact hw
  | ask instruction =>
    cases hb : d.desk.isBusy with
    | true => exact perform_ask_of_busy hb instruction ▸ hw
    | false => exact perform_ask_of_free hb instruction ▸ hw
  | cancel =>
    simp only [perform, Desk.cancel, Desk.abortSlot]
    cases d.desk.slot <;> exact hw
  | cancelHeld =>
    simp only [perform, Desk.cancelHeld]
    cases d.desk.held <;> exact hw
  | wait =>
    simp only [perform, Desk.wait]
    cases d.desk.slot with
    | none => exact hw
    | some task => exact (Desk.awaited_finish d.assistant _ task).trans hw
  | waitHeld =>
    simp only [perform, Desk.waitHeld]
    cases d.desk.held with
    | none => exact hw
    | some task => exact (Desk.awaited_finish d.assistant _ task).trans hw

/-- **What operations lead to, actions lead to.** -/
theorem exists_actions (s : Session) (transport : Transport) (ops : List Operation) :
    ∃ xs, ops.foldl (fun d op => (d.perform op).dialogue) (start s transport) =
      (start s transport).after xs := by
  suffices ∃ xs, ops.foldl (fun d op => (d.perform op).dialogue) (start s transport) =
      (start s transport).after xs ∧ ((start s transport).after xs).desk.awaited = none by
    obtain ⟨xs, h, -⟩ := this
    exact ⟨xs, h⟩
  induction ops using List.reverseRecOn with
  | nil => exact ⟨[], rfl, rfl⟩
  | append_singleton ops op ih =>
    obtain ⟨xs, h, hw⟩ := ih
    obtain ⟨before, x, after, hrun⟩ := exists_schedule (custody_after s transport xs) hw op
    refine ⟨xs ++ (before ++ x :: after), ?_, ?_⟩
    · rw [List.foldl_append, h, after_append, hrun.dialogue]
      rfl
    · rw [after_append, hrun.dialogue]
      exact awaited_perform hw op

end Dialogue

end EditScript
