import EditScript.Proofs.Assist.Custody

/-!
# Requests that others do not touch

What becomes of other requests is nothing to a request, unless the transport has replies to give for
whichever request comes first, and the request is still to come.

* `Dialogue.Effect.slot_iff`, `Dialogue.Effect.awaited_iff`, `Dialogue.mem_callsOff_iff`: what
  becomes of the place of a request depends on that request alone.
* `Dialogue.Bystander`, `Dialogue.Bystander.after`: in two dialogues in which a request stands
  alike, it fares alike in every run in which it needs none of the replies.
-/

namespace EditScript

open Assist

namespace Assist.Task

/-- Nothing comes back from a silent transport, whichever it is. -/
theorem poll_of_silent {a : Assistant} {clock : Nat} {t : Task} {transport transport' : Transport}
    (h : transport.replies = none) (h' : transport'.replies = none) :
    (t.poll a clock transport').1 = (t.poll a clock transport).1 := by
  cases hp : t.progress with
  | queued => simp only [poll, hp, Transport.send, h, h']
  | waiting | answered | calledOff | finished => simp only [poll, hp]

/-- A task that has run does not look at the transport any more. -/
theorem poll_of_ne_queued {a : Assistant} {clock : Nat} {t : Task}
    {transport transport' : Transport} (h : t.progress ≠ .queued) :
    (t.poll a clock transport').1 = (t.poll a clock transport).1 := by
  cases hp : t.progress with
  | queued => exact absurd hp h
  | waiting | answered | calledOff | finished => simp only [poll, hp]

end Assist.Task

namespace Dialogue

variable {d e : Dialogue} {x : Action} {turn : Turn} {task : Nat} {t t' : Task}
  {out out' : List Nat}

/-- A silent transport stays silent. -/
theorem Effect.replies_eq_none (he : Effect d x turn) (h : d.desk.transport.replies = none) :
    turn.dialogue.desk.transport.replies = none := by
  have hsend : ∀ request, (d.desk.transport.send request).2 = d.desk.transport := by
    intro request
    simp only [Transport.send, h]
  rw [he.transport]
  rcases d.handsOver_eq x with hnil | ⟨o, hone⟩
  · rw [hnil]
    exact h
  · rw [hone, List.foldl_cons, hsend]
    exact h

/-- An action leaves a request in the slot if it neither takes it out nor replaces it. -/
theorem Effect.slot_iff (he : Effect d x turn) (hc : d.desk.Custody out)
    (ht : task < d.desk.tasks.length) : turn.dialogue.desk.slot = some task ↔
      d.desk.slot = some task ∧ x ≠ .take ∧ x ≠ .wait ∧
        ∀ instruction, x = .ask instruction → d.desk.isFinished task = false := by
  cases he with
  | idle hi =>
    cases hi with
    | blocked _ hw => simp [hc.apart hw]
    | busy instruction hw hb =>
      -- The start is refused because of the request in the slot, which is this one.
      obtain ⟨other, hs, hf⟩ := Desk.isBusy_eq_true_iff.1 hb
      simp only [hs, Option.some.injEq]
      refine ⟨?_, And.left⟩
      rintro rfl
      exact ⟨rfl, nofun, nofun, fun _ _ => hf⟩
    | notFound hx _ hs => simp [hs]
    | notThere hx => rcases hx with rfl | rfl <;> simp
    | nothingAwaited hs => simp [(Option.or_eq_none_iff.1 hs).2]
    | unfinished | notTaken => simp
  | asked instruction hw hb =>
    -- The new request has a number that no other has, and the slot was free.
    refine iff_of_false (fun hs => ?_) fun h => ?_
    · cases hs
      exact Nat.lt_irrefl _ ht
    · obtain ⟨hs, -, -, hf⟩ := h
      rw [Desk.isBusy_eq_true_iff.2 ⟨task, hs, hf instruction rfl⟩] at hb
      cases hb
  | taken | collected | waiting => simp
  | edit | polled | received | passed | canceled | canceledTask | letGo | collectedTaken =>
    simp [Desk.receive, Desk.pass, Desk.abort, Desk.letGo]

/-- A request is waited for through the slot until it is given out. -/
theorem Effect.awaited_iff (he : Effect d x turn) (hc : d.desk.Custody out) :
    turn.dialogue.desk.awaited = some task ↔
      (x = .wait ∧ d.desk.fronts task ∧ d.desk.result? task = none) ∨
      (x ≠ .wait ∧ d.desk.awaited = some task) := by
  cases he with
  | idle hi =>
    cases hi with
    | blocked hx =>
      have hne : x ≠ .wait := by
        rintro rfl
        cases hx
      simp [hne]
    | notFound hx | notThere hx => rcases hx with rfl | rfl <;> simp
    | nothingAwaited hs =>
      obtain ⟨hw, hs⟩ := Option.or_eq_none_iff.1 hs
      simp [Desk.fronts, hw, hs]
    | busy | unfinished | notTaken => simp
  | @collected other r hs hr =>
    refine iff_of_false nofun ?_
    rintro (⟨-, hfront, hnone⟩ | ⟨hne, -⟩)
    · rw [hc.eq_of_fronts hs hfront, hr] at hnone
      cases hnone
    · exact hne rfl
  | @waiting other hs hr =>
    constructor
    · intro h
      cases h
      exact .inl ⟨rfl, Desk.fronts_of_or hs, hr⟩
    · rintro (⟨-, hf, -⟩ | ⟨hne, -⟩)
      · exact congrArg some (hc.eq_of_fronts hs hf).symm
      · exact absurd rfl hne
  | edit | asked | polled | received | passed | canceled | canceledTask | taken | letGo
  | collectedTaken => simp [Desk.receive, Desk.pass, Desk.abort, Desk.letGo]

/-- What an action calls off. -/
theorem mem_callsOff_iff (hc : d.desk.Custody out) (ht : task < d.desk.tasks.length) :
    task ∈ d.callsOff x ↔ (x = .cancel ∧ d.desk.slot = some task) ∨ x = .cancelTask task := by
  cases x with
  | cancel =>
    cases hw : d.desk.awaited with
    | none => simp [callsOff, hw]
    | some other => simp [callsOff, hw, hc.apart (by simp [hw])]
  | cancelTask other =>
    simp only [callsOff]
    split
    · simp [eq_comm]
    · have hne : other ≠ task := by omega
      simp [hne]
  | edit | ask | poll | receive | pass | take | letGo | wait | waitTaken => simp [callsOff]

/-- What two transports have to give is nothing to a request: neither gives any reply, or the
request is not among those that reach them. -/
def NeedsNoReply (d e : Dialogue) (task : Nat) (hs : List Handover) : Prop :=
  (d.desk.transport.replies = none ∧ e.desk.transport.replies = none) ∨
    task ∉ hs.map Handover.task

theorem NeedsNoReply.poll (h : NeedsNoReply d e task (d.handsOver (.poll task)))
    (ht : d.desk.tasks[task]? = some t) {a : Assistant} {clock : Nat} :
    (t.poll a clock e.desk.transport).1 = (t.poll a clock d.desk.transport).1 := by
  rcases h with ⟨hd, he⟩ | hnot
  · exact Task.poll_of_silent hd he
  · refine Task.poll_of_ne_queued fun hp => hnot ?_
    rw [handsOver_poll ht hp]
    exact List.mem_singleton_self _

/-- Requests fare alike if they go on at the same time and need no reply. -/
theorem Touch.alike (h : Touch d x task t t') {t'' : Task} (h' : Touch e x task t t'')
    (ht : d.desk.tasks[task]? = some t) (ha : e.assistant = d.assistant)
    (hclock : e.desk.clock = d.desk.clock) (hneeds : NeedsNoReply d e task (d.handsOver x))
    (hoff : task ∈ d.callsOff x ↔ task ∈ e.callsOff x) : t'' = t' := by
  cases h with
  | left hp hr hc =>
    cases h' with
    | left => rfl
    | polled hx => exact absurd hx hp
    | received hx => exact absurd hx (hr _)
    | calledOff hc' => exact absurd (hoff.2 hc') hc
  | polled hx =>
    subst hx
    cases h' with
    | left hp => exact absurd rfl hp
    | polled => rw [ha, hclock, hneeds.poll ht]
    | received hx => cases hx
    | calledOff hc' => cases hc'
  | received hx =>
    subst hx
    cases h' with
    | left _ hr => exact absurd rfl (hr _)
    | polled hx => cases hx
    | received hx =>
      cases hx
      rfl
    | calledOff hc' => cases hc'
  | calledOff hc =>
    cases h' with
    | left _ _ hc' => exact absurd (hoff.1 hc) hc'
    | polled hx | received hx =>
      subst hx
      cases hc
    | calledOff => rfl

/-- Two dialogues in which a request stands alike, whatever becomes of others. -/
structure Bystander (task : Nat) (d e : Dialogue) : Prop where
  assistant : e.assistant = d.assistant
  clock : e.desk.clock = d.desk.clock
  tasks : ∃ t, d.desk.tasks[task]? = some t ∧ e.desk.tasks[task]? = some t
  slot : e.desk.slot = some task ↔ d.desk.slot = some task
  awaited : e.desk.awaited = some task ↔ d.desk.awaited = some task

theorem Bystander.act (h : Bystander task d e) (hd : d.desk.Custody out) (he : e.desk.Custody out')
    (hneeds : NeedsNoReply d e task (d.handsOver x)) :
    Bystander task (d.act x).dialogue (e.act x).dialogue := by
  obtain ⟨t, ht, ht'⟩ := h.tasks
  have hlt := (List.getElem?_eq_some_iff.1 ht).1
  have hlt' := (List.getElem?_eq_some_iff.1 ht').1
  have hleft := act_effect d x
  have hright := act_effect e x
  have hfinished : e.desk.isFinished task = d.desk.isFinished task := by
    rw [Desk.isFinished, Desk.isFinished, ht, ht']
  have hresult : e.desk.result? task = d.desk.result? task := by
    rw [Desk.result?, Desk.result?, ht, ht']
  have hfronts : e.desk.fronts task ↔ d.desk.fronts task := or_congr h.slot h.awaited
  have hoff : task ∈ d.callsOff x ↔ task ∈ e.callsOff x := by
    rw [mem_callsOff_iff hd hlt, mem_callsOff_iff he hlt', h.slot]
  obtain ⟨u, hu, htouch⟩ := hleft.touch ht
  obtain ⟨v, hv, htouch'⟩ := hright.touch ht'
  exact {
    assistant := by rw [hleft.assistant, hright.assistant, h.assistant]
    clock := by rw [hleft.clock, hright.clock, h.clock]
    tasks := ⟨u, hu, by rw [hv, htouch.alike htouch' ht h.assistant h.clock hneeds hoff]⟩
    slot := by rw [hright.slot_iff he hlt', hleft.slot_iff hd hlt, h.slot, hfinished]
    awaited := by rw [hright.awaited_iff he, hleft.awaited_iff hd, hfronts, hresult, h.awaited] }

/-- What a request does not need in a run, it needs neither in the first action nor later. -/
theorem NeedsNoReply.of_cons {xs : List Action}
    (h : NeedsNoReply d e task (d.handovers (x :: xs))) :
    NeedsNoReply d e task (d.handsOver x) ∧
      NeedsNoReply (d.act x).dialogue (e.act x).dialogue task
        ((d.act x).dialogue.handovers xs) := by
  rcases h with ⟨hd, he⟩ | hnot
  · exact ⟨.inl ⟨hd, he⟩,
      .inl ⟨(act_effect d x).replies_eq_none hd, (act_effect e x).replies_eq_none he⟩⟩
  · rw [handovers, noted, List.map_append, List.mem_append, not_or] at hnot
    exact ⟨.inr hnot.1, .inr hnot.2⟩

/-- **A request fares alike in two dialogues** in which it stands alike, if it needs no reply. -/
theorem Bystander.after (h : Bystander task d e) (hd : d.desk.Custody out)
    (he : e.desk.Custody out') (xs : List Action)
    (hneeds : NeedsNoReply d e task (d.handovers xs)) :
    Bystander task (d.after xs) (e.after xs) := by
  induction xs generalizing d e out out' with
  | nil => exact h
  | cons x xs ih =>
    obtain ⟨hfirst, hrest⟩ := hneeds.of_cons
    exact ih (h.act hd he hfirst) ((act_effect d x).custody hd) ((act_effect e x).custody he) hrest

end Dialogue

end EditScript
