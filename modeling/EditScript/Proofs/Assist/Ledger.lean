import EditScript.Proofs.Assist.Run

/-!
# How far requests come

A request reaches the transport when its task runs for the first time, and at most once.

* `Dialogue.Ledger`, `Dialogue.ledger_after`: the requests that have reached the transport are those
  whose tasks have run, each of them once.
* `Task.CalledOff`, `Dialogue.calledOff_after`: a task that is called off before it has ended ends
  in nothing else.
* `Dialogue.not_handedOver_of_calledOff`: its request does not reach the transport after that.
-/

namespace EditScript

open Assist

namespace Assist.Task

variable {a : Assistant} {clock : Nat} {t : Task} {transport : Transport}

/-- The task was called off before it had ended. -/
def CalledOff (t : Task) : Prop :=
  t.progress = .calledOff ∨ t.progress = .finished (.error .cancelled)

theorem CalledOff.ne_queued (h : t.CalledOff) : t.progress ≠ .queued := by
  rcases h with h | h <;> simp [h]

theorem CalledOff.eq_cancelled (h : t.CalledOff) {r : Result} (hp : t.progress = .finished r) :
    r = .error .cancelled := by
  rcases h with h | h <;> rw [h] at hp <;> cases hp
  rfl

theorem CalledOff.poll (h : t.CalledOff) :
    (t.poll a clock transport).1.progress = .finished (.error .cancelled) := by
  unfold Task.poll
  rcases h with h | h
  · rw [h]
    rfl
  · rw [h]
    exact h

theorem CalledOff.receive (h : t.CalledOff) (answer : Except Error Reply) :
    t.receive answer = t := by
  unfold Task.receive
  rcases h with h | h <;> rw [h]

theorem abort_of_finished (h : t.isFinished = true) : t.abort = t := if_pos h

theorem calledOff_abort (h : t.isFinished = false) : t.abort.CalledOff := by
  unfold abort
  rw [if_neg (by simp [h])]
  exact .inl rfl

theorem progress_await_ne_queued (deadline : Nat) :
    (t.await a clock deadline).progress ≠ .queued := by
  unfold await
  split <;> exact nofun

/-- A task that has gone on has run. -/
theorem progress_poll_ne_queued : (t.poll a clock transport).1.progress ≠ .queued := by
  unfold poll
  cases hp : t.progress with
  | finished | calledOff | answered => simp [finish, hp]
  | waiting deadline => exact progress_await_ne_queued deadline
  | queued =>
    rcases transport.send t.request with ⟨_ | answer, next⟩
    · exact progress_await_ne_queued _
    · exact nofun

end Assist.Task

namespace Dialogue

variable {d : Dialogue} {x : Action} {turn : Turn} {task : Nat} {t t' : Task}
  {hs : List Handover}

/-! ## Requests that reach the transport -/

/-- A task that has run has run ever after. -/
theorem Touch.ne_queued (h : Touch d x task t t') (hp : t.progress ≠ .queued) :
    t'.progress ≠ .queued := by
  cases h with
  | left => exact hp
  | polled => exact Task.progress_poll_ne_queued
  | received =>
    unfold Task.receive
    split
    · exact nofun
    · exact hp
  | calledOff =>
    unfold Task.abort
    split
    · exact hp
    · exact nofun

/-- The tasks whose requests have reached the transport are there and have run, and each request has
reached it once. -/
structure Ledger (hs : List Handover) (d : Dialogue) : Prop where
  ran : ∀ h ∈ hs, ∃ t, d.desk.tasks[h.task]? = some t ∧ t.request = h.request ∧
    t.progress ≠ .queued
  once : (hs.map Handover.task).Nodup

/-- A request that reaches the transport is that of a task that has not run. -/
theorem Ledger.not_mem (h : Ledger hs d) (ht : d.desk.tasks[task]? = some t)
    (hp : t.progress = .queued) : task ∉ hs.map Handover.task := by
  intro hm
  obtain ⟨o, ho, rfl⟩ := List.mem_map.1 hm
  obtain ⟨u, hu, -, hran⟩ := h.ran o ho
  obtain rfl := Option.some.inj (hu.symm.trans ht)
  exact hran hp

theorem Effect.ledger (he : Effect d x turn) (h : Ledger hs d) :
    Ledger (hs ++ d.handsOver x) turn.dialogue where
  ran o ho := by
    rcases List.mem_append.1 ho with ho | ho
    · obtain ⟨t, ht, hreq, hp⟩ := h.ran o ho
      obtain ⟨t', ht', htouch⟩ := he.touch ht
      exact ⟨t', ht', htouch.request.trans hreq, htouch.ne_queued hp⟩
    · obtain ⟨rfl, hq, -⟩ := mem_handsOver.1 ho
      obtain ⟨t', ht', htouch⟩ := he.touch hq
      refine ⟨t', ht', htouch.request, ?_⟩
      cases htouch with
      | left hp => exact absurd rfl hp
      | polled => exact Task.progress_poll_ne_queued
      | received hx => cases hx
      | calledOff hc => cases hc
  once := by
    rw [List.map_append, List.nodup_append]
    refine ⟨h.once, ?_, fun i hi j hj hij => ?_⟩
    · rcases d.handsOver_eq x with hnil | ⟨o, hone⟩
      · simp [hnil]
      · simp [hone]
    · subst hij
      obtain ⟨o, ho, rfl⟩ := List.mem_map.1 hj
      obtain ⟨-, hq, -⟩ := mem_handsOver.1 ho
      exact h.not_mem hq rfl hi

/-- **Each request reaches the transport at most once**, when its task runs for the first time. -/
theorem ledger_after (s : Session) (transport : Transport) (xs : List Action) :
    Ledger ((start s transport).handovers xs) ((start s transport).after xs) :=
  noted_keeps (P := Ledger) ⟨nofun, List.nodup_nil⟩ (fun he h => he.ledger h) xs

/-! ## Requests that are called off -/

theorem Touch.calledOff_of (h : Touch d x task t t') (ht : t.CalledOff) : t'.CalledOff := by
  cases h with
  | left => exact ht
  | polled => exact .inr ht.poll
  | received =>
    rw [ht.receive]
    exact ht
  | calledOff =>
    cases hf : t.isFinished with
    | true =>
      rw [Task.abort_of_finished hf]
      exact ht
    | false => exact Task.calledOff_abort hf

/-- **A task that is called off before it has ended** stays so, and has ended once it has gone
on. -/
theorem calledOff_after (ht : d.desk.tasks[task]? = some t) (h : t.CalledOff) (xs : List Action) :
    ∃ t', (d.after xs).desk.tasks[task]? = some t' ∧ t'.CalledOff ∧
      (.poll task ∈ xs → t'.progress = .finished (.error .cancelled)) := by
  refine run_keeps (P := fun xs d => ∃ t', d.desk.tasks[task]? = some t' ∧ t'.CalledOff ∧
    (.poll task ∈ xs → t'.progress = .finished (.error .cancelled))) ⟨t, ht, h, nofun⟩
    (fun xs x ih => ?_) xs
  obtain ⟨u, hu, hoff, hended⟩ := ih
  obtain ⟨u', hu', htouch⟩ := (act_effect _ x).touch hu
  refine ⟨u', hu', htouch.calledOff_of hoff, fun hm => ?_⟩
  rcases List.mem_append.1 hm with hm | hm
  · rw [htouch.finished (hended hm)]
    exact hended hm
  · obtain rfl := List.mem_singleton.1 hm
    cases htouch with
    | left hp => exact absurd rfl hp
    | polled => exact hoff.poll
    | received hx => cases hx
    | calledOff hc => cases hc

theorem not_handedOver_of_calledOff (ht : d.desk.tasks[task]? = some t) (h : t.CalledOff)
    (xs : List Action) : task ∉ (d.handovers xs).map Handover.task := by
  intro hm
  obtain ⟨o, ho, rfl⟩ := List.mem_map.1 hm
  obtain ⟨ys, x, zs, -, ho⟩ := mem_noted.1 ho
  obtain ⟨-, hq, -⟩ := mem_handsOver.1 ho
  obtain ⟨t', ht', hoff, -⟩ := calledOff_after ht h ys
  obtain rfl := Option.some.inj (ht'.symm.trans hq)
  exact hoff.ne_queued rfl

end Dialogue

end EditScript
