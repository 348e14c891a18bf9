import EditScript.Proofs.Assist.Bystander

/-!
# A run with and without a request called off

Calling off a request commutes with everything but letting that request go on. From then on the
request has used up a reply in one run and none in the other.

* `Assist.Desk.isFinished_abort`, `Assist.Desk.result?_abort`: no request ends by being called off.
* `Dialogue.act_abort`: an action that does not let the request go on does the same before and after
  it is called off.
* `Assist.Desk.Prompt`, `Dialogue.prompt_after`: nothing waits for an answer of a transport that has
  replies to give.
* `Dialogue.alike_after_abort`: the other requests fare alike in both runs, but for those that reach
  the transport later than the request would have.
-/

namespace EditScript

open Assist

namespace Assist

/-! ## Calling off -/

namespace Task

variable {a : Assistant} {clock : Nat} {t : Task} {transport : Transport}

theorem isFinished_abort : t.abort.isFinished = t.isFinished := by
  unfold abort
  split
  · rfl
  · exact (Bool.eq_false_iff.2 ‹_›).symm

theorem progress_abort_eq_finished_iff {r : Result} :
    t.abort.progress = .finished r ↔ t.progress = .finished r := by
  unfold abort isFinished
  cases h : t.progress <;> simp [h]

/-- An answer comes too late for a task that is called off, and calling off takes no notice of
it. -/
theorem receive_abort (answer : Except Error Reply) :
    t.abort.receive answer = (t.receive answer).abort := by
  unfold abort receive isFinished
  cases h : t.progress <;> simp [h]

/-- The task waits for an answer, or has been given one and has not run since. -/
def Waits (t : Task) : Prop :=
  (∃ deadline, t.progress = .waiting deadline) ∨ ∃ answer, t.progress = .answered answer

theorem receive_of_not_waits (h : ¬ t.Waits) (answer : Except Error Reply) :
    t.receive answer = t := by
  unfold receive
  split
  · exact absurd (.inl ⟨_, ‹_›⟩) h
  · rfl

theorem not_waits_abort (h : ¬ t.Waits) : ¬ t.abort.Waits := by
  unfold abort
  split
  · exact h
  · simp [Waits]

/-- A transport that has replies to give lets no task wait. -/
theorem not_waits_poll (h : ¬ t.Waits) (hreplies : transport.replies ≠ none) :
    ¬ (t.poll a clock transport).1.Waits := by
  cases hp : t.progress with
  | finished | calledOff => simp [poll, hp, finish, Waits]
  | waiting => exact absurd (.inl ⟨_, hp⟩) h
  | answered => exact absurd (.inr ⟨_, hp⟩) h
  | queued =>
    unfold poll Transport.send
    rw [hp]
    cases hr : transport.replies with
    | none => exact absurd hr hreplies
    | some replies => cases replies <;> simp [finish, Waits]

end Task

namespace Desk

variable {a : Assistant} {d : Desk} {task other : Nat} {t : Task}

theorem getElem?_tasks_abort (d : Desk) (task other : Nat) : (d.abort task).tasks[other]? =
    if task = other then (d.tasks[other]?).map Task.abort else d.tasks[other]? := by
  rw [abort, List.getElem?_modify]
  split <;> simp

/-- Calling off a request that has ended, or was called off before, changes nothing. -/
theorem abort_of_abort_eq (ht : d.tasks[task]? = some t) (h : t.abort = t) : d.abort task = d := by
  have htasks : d.tasks.modify task Task.abort = d.tasks := by
    refine List.ext_getElem? fun i => ?_
    rw [List.getElem?_modify]
    split
    · subst i
      rw [ht]
      exact congrArg some h
    · exact Option.map_id'
  rw [abort, htasks]

@[simp]
theorem isFinished_abort (d : Desk) (task other : Nat) :
    (d.abort task).isFinished other = d.isFinished other := by
  rw [isFinished, isFinished, getElem?_tasks_abort]
  split
  · cases d.tasks[other]? with
    | none => rfl
    | some t => exact Task.isFinished_abort
  · rfl

@[simp]
theorem isBusy_abort (d : Desk) (task : Nat) : (d.abort task).isBusy = d.isBusy := by
  have hslot : (d.abort task).slot = d.slot := rfl
  simp only [isBusy, hslot, isFinished_abort]

@[simp]
theorem result?_abort (d : Desk) (task other : Nat) :
    (d.abort task).result? other = d.result? other := by
  refine Option.ext fun r => ?_
  rw [result?_eq_some_iff, result?_eq_some_iff, getElem?_tasks_abort]
  split
  · cases d.tasks[other]? with
    | none => simp
    | some t => simp [Task.progress_abort_eq_finished_iff]
  · rfl

theorem abort_abort (d : Desk) (task other : Nat) :
    (d.abort task).abort other = (d.abort other).abort task := by
  by_cases h : task = other
  · rw [h]
  · unfold abort
    exact congrArg (fun tasks => { d with tasks := tasks }) (List.modify_modify_ne _ _ _ h)

theorem receive_abort (d : Desk) (task other : Nat) (answer : Except Error Reply) :
    (d.abort task).receive other answer = (d.receive other answer).abort task := by
  refine congrArg (fun tasks => { d with tasks := tasks }) ?_
  by_cases h : task = other
  · subst h
    show (d.tasks.modify task _).modify task _ = (d.tasks.modify task _).modify task _
    rw [List.modify_modify_eq, List.modify_modify_eq]
    exact congrArg (d.tasks.modify task) (funext fun t => Task.receive_abort answer)
  · exact List.modify_modify_ne _ _ _ h

theorem abortSlot_abort (d : Desk) (task : Nat) :
    (d.abort task).abortSlot = d.abortSlot.abort task := by
  have hslot : (d.abort task).slot = d.slot := rfl
  unfold abortSlot
  rw [hslot]
  cases d.slot with
  | none => rfl
  | some other => exact abort_abort d task other

/-- A new request is another one. -/
theorem tasks_abort_append (ht : task < d.tasks.length) (t : Task) :
    (d.abort task).tasks ++ [t] = (d.tasks ++ [t]).modify task Task.abort := by
  refine List.ext_getElem? fun i => ?_
  rcases Nat.lt_or_ge i d.tasks.length with hi | hi
  · have hi' : i < (d.abort task).tasks.length := by simpa [abort] using hi
    rw [List.getElem?_append_left hi', List.getElem?_modify, List.getElem?_append_left hi, abort,
      List.getElem?_modify]
  · have hi' : (d.abort task).tasks.length ≤ i := by simpa [abort] using hi
    have hne : task ≠ i := by omega
    rw [List.getElem?_append_right hi', List.getElem?_modify_ne _ _ hne,
      List.getElem?_append_right hi, abort, List.length_modify]

/-- Another request goes on as it would have. -/
theorem poll_abort (a : Assistant) (d : Desk) (h : other ≠ task) :
    (d.abort task).poll a other = (d.poll a other).abort task := by
  have hother : (d.abort task).tasks[other]? = d.tasks[other]? := by
    rw [getElem?_tasks_abort, if_neg h.symm]
  cases ht : d.tasks[other]? with
  | none => rw [poll_of_none ht, poll_of_none (hother.trans ht)]
  | some t =>
    rw [poll_eq ht, poll_eq (hother.trans ht)]
    refine congrArg (fun tasks => { d with
      tasks := tasks, transport := (t.poll a d.clock d.transport).2 }) ?_
    show (d.tasks.modify task _).set other _ = (d.tasks.set other _).modify task _
    rw [List.set_eq_modify, List.set_eq_modify]
    exact List.modify_modify_ne _ _ _ h.symm

/-- No task waits for an answer, unless the transport has no replies to give. -/
def Prompt (d : Desk) : Prop :=
  d.transport.replies = none ∨ ∀ (task : Nat) (t : Task), d.tasks[task]? = some t → ¬ t.Waits

end Desk

end Assist

namespace Dialogue

variable {d : Dialogue} {x : Action} {turn : Turn} {task other : Nat} {t : Task} {out : List Nat}

/-- The dialogue in which a request is called off. -/
def abort (d : Dialogue) (task : Nat) : Dialogue := { d with desk := d.desk.abort task }

theorem withSlot_abort {turn turn' : Turn} (h : turn'.dialogue = turn.dialogue.abort task) :
    ((d.abort task).withSlot turn').dialogue = (d.withSlot turn).dialogue.abort task := by
  have hawaited : (d.abort task).desk.awaited = d.desk.awaited := rfl
  unfold withSlot
  rw [hawaited]
  split
  · rfl
  · exact h

theorem perform_ask_abort (ht : task < d.desk.tasks.length) (instruction : Text) :
    ((d.abort task).perform (.ask instruction)).dialogue =
      (d.perform (.ask instruction)).dialogue.abort task := by
  have hbusy : (d.abort task).desk.isBusy = d.desk.isBusy := Desk.isBusy_abort d.desk task
  cases hb : d.desk.isBusy with
  | true =>
    rw [perform_ask_of_busy hb, perform_ask_of_busy (hbusy.trans hb)]
  | false =>
    rw [perform_ask_of_free hb, perform_ask_of_free (hbusy.trans hb)]
    have hlength : (d.abort task).desk.tasks.length = d.desk.tasks.length := List.length_modify ..
    rw [hlength]
    exact congrArg (fun tasks => Dialogue.mk (d.session.recordInstruction instruction).session
      d.assistant { d.desk with tasks := tasks, slot := some d.desk.tasks.length })
      (Desk.tasks_abort_append ht _)

theorem collect_abort (other : Nat) (ended waiting : Desk) :
    ((d.abort task).collect other (ended.abort task) (waiting.abort task)).dialogue =
      (d.collect other ended waiting).dialogue.abort task := by
  have hresult : (d.abort task).desk.result? other = d.desk.result? other :=
    Desk.result?_abort d.desk task other
  rw [collect_eq, collect_eq, hresult]
  cases d.desk.result? other <;> rfl

/-- **An action that does not let a request go on** does the same before and after it is called
off. -/
theorem act_abort (ht : task < d.desk.tasks.length) (hx : x ≠ .poll task) :
    ((d.abort task).act x).dialogue = (d.act x).dialogue.abort task := by
  cases x with
  | ask instruction => exact withSlot_abort (perform_ask_abort ht instruction)
  | poll other =>
    have hne : other ≠ task := fun h => hx (by rw [h])
    exact congrArg (fun desk => { d with desk := desk }) (Desk.poll_abort d.assistant d.desk hne)
  | receive other answer =>
    exact congrArg (fun desk => { d with desk := desk })
      (Desk.receive_abort d.desk task other answer)
  | cancel =>
    exact withSlot_abort (congrArg (fun desk => { d with desk := desk })
      (Desk.abortSlot_abort d.desk task))
  | cancelTask other =>
    exact congrArg (fun desk => { d with desk := desk }) (Desk.abort_abort d.desk task other)
  | take => exact withSlot_abort rfl
  | wait =>
    have hfront : (d.abort task).desk.awaited.or (d.abort task).desk.slot =
      d.desk.awaited.or d.desk.slot := rfl
    rw [act, act, hfront]
    cases d.desk.awaited.or d.desk.slot with
    | none => rfl
    | some other =>
      exact collect_abort other { d.desk with slot := none, awaited := none }
        { d.desk with slot := none, awaited := some other }
  | waitTaken other =>
    have htaken : (d.abort task).desk.taken = d.desk.taken := rfl
    rw [act, act, htaken]
    split
    · exact collect_abort other (d.desk.letGo other) d.desk
    · rfl
  | edit | pass | letGo => rfl

/-! ## Transports that have replies to give -/

theorem Effect.prompt (he : Effect d x turn) (h : d.desk.Prompt) : turn.dialogue.desk.Prompt := by
  rcases h with hnone | hready
  · exact .inl (he.replies_eq_none hnone)
  by_cases hreplies : d.desk.transport.replies = none
  · exact .inl (he.replies_eq_none hreplies)
  refine .inr fun task t' ht' => ?_
  rcases he.touch_or_asked ht' with ⟨t, ht, htouch⟩ | ⟨instruction, -, rfl⟩
  · have hwaits := hready task t ht
    cases htouch with
    | left => exact hwaits
    | polled => exact Task.not_waits_poll hwaits hreplies
    | received =>
      rw [Task.receive_of_not_waits hwaits]
      exact hwaits
    | calledOff => exact Task.not_waits_abort hwaits
  · simp [Task.Waits]

theorem prompt_after (s : Session) (transport : Transport) (xs : List Action) :
    ((start s transport).after xs).desk.Prompt :=
  run_keeps (P := fun _ d => d.desk.Prompt) (.inr fun _ _ ht => by cases ht)
    (fun _ x h => (act_effect _ x).prompt h) xs

/-! ## Runs -/

/-- A request that needs no reply fares as if the other had not been called off. -/
theorem alike_of_needsNoReply (hc : d.desk.Custody out) (ho : other < d.desk.tasks.length)
    (hne : other ≠ task) {xs : List Action}
    (h : NeedsNoReply d (d.abort task) other (d.handovers xs)) :
    ((d.abort task).after xs).desk.tasks[other]? = (d.after xs).desk.tasks[other]? := by
  have hc' : (d.abort task).desk.Custody _ := (act_effect d (.cancelTask task)).custody hc
  have hother := List.getElem?_eq_getElem ho
  have hlike : Bystander other d (d.abort task) := {
    assistant := rfl
    clock := rfl
    tasks := ⟨_, hother, (List.getElem?_modify_ne _ _ hne.symm).trans hother⟩
    slot := .rfl
    awaited := .rfl }
  obtain ⟨t, ht, ht'⟩ := (hlike.after hc hc' xs h).tasks
  rw [ht, ht']

/-- **Whether a request is called off is nothing to the others** in a run, if the transport has no
replies to give, or if they do not reach it later than the request would. -/
theorem alike_after_abort (hc : d.desk.Custody out) (hp : d.desk.Prompt)
    (ht : task < d.desk.tasks.length) (ho : other < d.desk.tasks.length) (hne : other ≠ task)
    (xs : List Action) (h : d.desk.transport.replies = none ∨
      ¬ [task, other].Sublist ((d.handovers xs).map Handover.task)) :
    ((d.abort task).after xs).desk.tasks[other]? = (d.after xs).desk.tasks[other]? := by
  rcases h with hsilent | hlater
  · exact alike_of_needsNoReply hc ho hne (.inl ⟨hsilent, hsilent⟩)
  induction xs generalizing d out with
  | nil => exact List.getElem?_modify_ne _ _ hne.symm
  | cons x xs ih =>
    have he := act_effect d x
    have hlength := he.length_tasks
    by_cases hx : x = .poll task
    · -- From here on the replies that are left differ, unless the request needs none.
      subst hx
      have hread := List.getElem?_eq_getElem ht
      generalize d.desk.tasks[task] = t at hread
      cases hprogress : t.progress with
      | queued =>
        refine alike_of_needsNoReply hc ho hne (.inr fun hm => hlater ?_)
        rw [handovers, noted, List.map_append, handsOver_poll hread hprogress] at hm ⊢
        have hrest := (List.mem_cons.1 hm).resolve_left hne
        exact (List.singleton_sublist.2 hrest).cons_cons task
      | waiting | answered =>
        have hsilent : d.desk.transport.replies = none :=
          hp.resolve_right fun hready => hready task t hread (by simp [Task.Waits, hprogress])
        exact alike_of_needsNoReply hc ho hne (.inl ⟨hsilent, hsilent⟩)
      | calledOff | finished =>
        have hsame : t.abort = t := by
          obtain ⟨request, progress⟩ := t
          cases hprogress
          rfl
        rw [abort, Desk.abort_of_abort_eq hread hsame]
    · show (((d.abort task).act x).dialogue.after xs).desk.tasks[other]? = _
      rw [act_abort ht hx]
      refine ih (he.custody hc) (he.prompt hp) (by omega) (by omega) fun hs => hlater ?_
      rw [handovers, noted, List.map_append]
      exact hs.trans (List.sublist_append_right _ _)

end Dialogue

end EditScript
