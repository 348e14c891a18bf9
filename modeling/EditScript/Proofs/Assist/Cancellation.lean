import EditScript.Proofs.Assist.Abort
import EditScript.Proofs.Assist.Exclusion
import EditScript.Proofs.Assist.Ledger

/-!
# Calling off and running out of time

A request that nobody answers ends because it is called off or because of the time. Calling off one
request is something to another only where both would be answered from one list of replies.

* `Dialogue.answer_of_calledOff`, `Dialogue.answer_of_result?`: what whoever waits for a request is
  given, if it was called off before it had ended, and if it has ended.
* `Dialogue.CallOff`, `Dialogue.callOff`: what calling off a request does to it and to the others.
* `Assistant.KeepsTime`: no timer goes off before its time.
* `Dialogue.Unanswered`, `Dialogue.unanswered_after`: what becomes of a request that is not
  answered.
* `Dialogue.cancellation_and_timeout`: what follows for every run.
-/

namespace EditScript

open Assist

namespace Assist.Assistant

variable {a : Assistant}

/-- No timer goes off before the whole of its time has passed. -/
def KeepsTime (a : Assistant) : Prop := ∀ clock, clock + a.timeoutSeconds ≤ a.deadline clock

theorem keepsTime_of_lt (h : a.timeoutSeconds < Text.signedLimit) : a.KeepsTime := by
  intro clock
  simp [deadline, h]

end Assist.Assistant

namespace Dialogue

variable {d : Dialogue} {x : Action} {turn : Turn} {task : Nat} {t t' : Task}
  {out : List Nat} {hs : List Handover}

/-! ## Calling off -/

/-- What calling off a request does. If it has not ended, nothing of it reaches the transport any
more. Whoever waits for it can only be given that it was called off, and is given that once its task
has gone on. If it has ended, nothing changes, and its result is given out as before. Nothing but
the task that is called off is another one afterwards. Later on, too, the others fare as if it had
not been called off, but for those that would have reached a transport with replies later than it:
the reply that it does not take is left for them. -/
structure CallOff (d : Dialogue) (x : Action) (task : Nat) : Prop where
  unfinished : d.desk.isFinished task = false → ∀ ys,
    let e := (d.act x).dialogue.after ys
    task ∉ ((d.act x).dialogue.handovers ys).map Handover.task ∧
    (∀ r, e.desk.result? task = some r → r = .error .cancelled) ∧
    (.poll task ∈ ys → e.desk.result? task = some (.error .cancelled)) ∧
    (∀ y, e.waitsFor y = some task → (e.act y).answer = none ∨
      (e.act y).answer = some (.result (some (.error .cancelled)))) ∧
    (.poll task ∈ ys → ∀ y, e.waitsFor y = some task →
      (e.act y).answer = some (.result (some (.error .cancelled))))
  finished : ∀ r, d.desk.result? task = some r → (d.act x).dialogue = d ∧ ∀ ys,
    (d.after ys).desk.result? task = some r ∧ ∀ y, (d.after ys).waitsFor y = some task →
      ((d.after ys).act y).answer = some (.result (some r))
  others : ∃ tasks, (d.act x).dialogue = { d with desk := { d.desk with tasks := tasks } } ∧
    tasks.length = d.desk.tasks.length ∧ ∀ other ≠ task, tasks[other]? = d.desk.tasks[other]?
  later : ∀ other < d.desk.tasks.length, other ≠ task → ∀ ys,
    (d.desk.transport.replies = none ∨
      ¬ [task, other].Sublist ((d.handovers ys).map Handover.task)) →
    ((d.act x).dialogue.after ys).desk.tasks[other]? = (d.after ys).desk.tasks[other]?

/-- An action that calls off a request does nothing else. -/
theorem act_of_callsOff (h : task ∈ d.callsOff x) : (d.act x).dialogue = d.abort task := by
  have he := act_effect d x
  generalize d.act x = turn at he ⊢
  cases he with
  | idle hi =>
    rw [hi.callsOff] at h
    cases h
  | canceled hw hs =>
    have hm : task ∈ d.desk.slot.toList := by simpa [callsOff, hw] using h
    obtain rfl := Option.some.inj (hs.symm.trans (Option.mem_toList.1 hm))
    rfl
  | canceledTask hlt =>
    obtain rfl : task = _ := by simpa [callsOff, hlt] using h
    rfl
  | edit | asked | polled | received | passed | taken | letGo | collected | waiting
  | collectedTaken => cases h

/-- A request that was called off before it had ended does not reach the transport, and whoever waits
for it can only be given that it was called off. -/
theorem answer_of_calledOff (ht : d.desk.tasks[task]? = some t) (h : t.CalledOff)
    (ys : List Action) :
    let e := d.after ys
    task ∉ (d.handovers ys).map Handover.task ∧
    (∀ r, e.desk.result? task = some r → r = .error .cancelled) ∧
    (.poll task ∈ ys → e.desk.result? task = some (.error .cancelled)) ∧
    (∀ y, e.waitsFor y = some task → (e.act y).answer = none ∨
      (e.act y).answer = some (.result (some (.error .cancelled)))) ∧
    (.poll task ∈ ys → ∀ y, e.waitsFor y = some task →
      (e.act y).answer = some (.result (some (.error .cancelled)))) := by
  intro e
  obtain ⟨u, hu, hcalled, hended⟩ := calledOff_after ht h ys
  have hresult : ∀ r, e.desk.result? task = some r → r = .error .cancelled := by
    intro r hr
    obtain ⟨v, hv, hp⟩ := Desk.result?_eq_some_iff.1 hr
    obtain rfl := Option.some.inj (hu.symm.trans hv)
    exact hcalled.eq_cancelled hp
  have hpolled : .poll task ∈ ys → e.desk.result? task = some (.error .cancelled) :=
    fun hm => Desk.result?_eq_some_iff.2 ⟨u, hu, hended hm⟩
  refine ⟨not_handedOver_of_calledOff ht h ys, hresult, hpolled, fun y hy => ?_,
    fun hm y hy => ?_⟩
  · rw [answer_of_waitsFor hy]
    cases hr : e.desk.result? task with
    | none => exact .inl rfl
    | some r =>
      rw [hresult r hr]
      exact .inr rfl
  · rw [answer_of_waitsFor hy, hpolled hm]
    rfl

/-- Whoever waits for a request that has ended is given its result, whatever happens before. -/
theorem answer_of_result? {r : Result} (h : d.desk.result? task = some r) (ys : List Action) :
    (d.after ys).desk.result? task = some r ∧ ∀ y, (d.after ys).waitsFor y = some task →
      ((d.after ys).act y).answer = some (.result (some r)) := by
  have hlater := result?_after h ys
  refine ⟨hlater, fun y hy => ?_⟩
  rw [answer_of_waitsFor hy, hlater]
  rfl

theorem callOff (hc : d.desk.Custody out) (hp : d.desk.Prompt) (h : task ∈ d.callsOff x) :
    CallOff d x task := by
  obtain ⟨t, ht⟩ := exists_task_of_callsOff hc h
  have hact := act_of_callsOff h
  refine ⟨fun hf ys => ?_, fun r hr => ⟨?_, answer_of_result? hr⟩, ?_,
    fun other ho hne ys hreply => ?_⟩
  · have ht' : (d.act x).dialogue.desk.tasks[task]? = some t.abort := by
      rw [hact]
      simp [Dialogue.abort, Desk.abort, ht]
    have hunfinished : t.isFinished = false := by simpa [Desk.isFinished, ht] using hf
    exact answer_of_calledOff ht' (Task.calledOff_abort hunfinished) ys
  · obtain ⟨u, hu, hended⟩ := Desk.result?_eq_some_iff.1 hr
    have habort : u.abort = u := Task.abort_of_finished (Task.isFinished_iff.2 ⟨r, hended⟩)
    rw [hact, Dialogue.abort, Desk.abort_of_abort_eq hu habort]
  · exact ⟨d.desk.tasks.modify task Task.abort, hact, List.length_modify .., fun other hne =>
      List.getElem?_modify_ne _ _ (Ne.symm hne)⟩
  · rw [hact]
    exact alike_after_abort hc hp (List.getElem?_eq_some_iff.1 ht).1 ho hne ys hreply

/-! ## Requests that are not answered -/

/-- How a task stands whose request is not answered. -/
inductive Unanswered (hs : List Handover) (off : List Nat) (d : Dialogue) (task : Nat) (t : Task) :
    Prop
  | queued (hp : t.progress = .queued)
  | waiting {o : Handover} (ho : o ∈ hs) (ht : o.task = task)
      (hp : t.progress = .waiting (d.assistant.deadline o.time))
  | calledOff (ht : t.CalledOff) (ho : task ∈ off)
  | timedOut {o : Handover} (ho : o ∈ hs) (ht : o.task = task)
      (hp : t.progress = .finished (.error (.timeout d.assistant.timeoutSeconds)))
      (hc : d.assistant.deadline o.time ≤ d.desk.clock)

/-- A task that waits goes on waiting, or has run out of time. -/
theorem Unanswered.await {off : List Nat} {o : Handover} (ho : o ∈ hs) (ht : o.task = task)
    (t : Task) : Unanswered hs off d task
      (t.await d.assistant d.desk.clock (d.assistant.deadline o.time)) := by
  unfold Task.await
  split
  · exact .timedOut ho ht rfl ‹_›
  · exact .waiting ho ht rfl

/-- As long as nothing happens to a task, it stands as it did. -/
theorem Unanswered.mono {off off' : List Nat} {hs' : List Handover} {d' : Dialogue}
    (h : Unanswered hs off d task t) (hhs : hs ⊆ hs') (hoff : off ⊆ off')
    (ha : d'.assistant = d.assistant) (hc : d.desk.clock ≤ d'.desk.clock) :
    Unanswered hs' off' d' task t := by
  cases h with
  | queued hp => exact .queued hp
  | waiting ho ht hp => exact .waiting (hhs ho) ht (by rw [ha]; exact hp)
  | calledOff ht ho => exact .calledOff ht (hoff ho)
  | timedOut ho ht hp hle =>
    exact .timedOut (hhs ho) ht (by rw [ha]; exact hp) (by rw [ha]; exact Nat.le_trans hle hc)

/-- A task goes on without an answer. -/
theorem Unanswered.poll {off : List Nat} (hsilent : d.desk.transport.replies = none)
    (ht : d.desk.tasks[task]? = some t) (h : Unanswered hs off d task t) :
    Unanswered (hs ++ d.handsOver (.poll task)) off d task
      (t.poll d.assistant d.desk.clock d.desk.transport).1 := by
  cases h with
  | queued hp =>
    have hm : ⟨task, t.request, d.desk.clock⟩ ∈ hs ++ d.handsOver (.poll task) := by
      simp [handsOver_poll ht hp]
    have hpoll : (t.poll d.assistant d.desk.clock d.desk.transport).1 =
        t.await d.assistant d.desk.clock (d.assistant.deadline d.desk.clock) := by
      simp only [Task.poll, hp, Transport.send, hsilent]
    rw [hpoll]
    exact .await hm rfl t
  | waiting ho htask hp =>
    simp only [Task.poll, hp]
    exact .await (List.mem_append_left _ ho) htask t
  | calledOff hcalled ho => exact .calledOff (.inr hcalled.poll) ho
  | timedOut ho htask hp hle =>
    have hsame : (t.poll d.assistant d.desk.clock d.desk.transport).1 = t := by
      simp only [Task.poll, hp]
    rw [hsame]
    exact .timedOut (List.mem_append_left _ ho) htask hp hle

/-- A task is called off without an answer. -/
theorem Unanswered.abort {off : List Nat} (h : Unanswered hs off d task t) (ho : task ∈ off) :
    Unanswered hs off d task t.abort := by
  cases hf : t.isFinished with
  | true =>
    rw [Task.abort_of_finished hf]
    exact h
  | false => exact .calledOff (Task.calledOff_abort hf) ho

theorem Effect.unanswered {off : List Nat} (he : Effect d x turn)
    (hsilent : d.desk.transport.replies = none) (hx : ∀ answer, x ≠ .receive task answer)
    (h : ∀ t, d.desk.tasks[task]? = some t → Unanswered hs off d task t)
    (ht' : turn.dialogue.desk.tasks[task]? = some t') :
    Unanswered (hs ++ d.handsOver x) (off ++ d.callsOff x) turn.dialogue task t' := by
  have hhs : hs ⊆ hs ++ d.handsOver x := List.subset_append_left ..
  have hoff : off ⊆ off ++ d.callsOff x := List.subset_append_left ..
  rcases he.touch_or_asked ht' with ⟨t, ht, htouch⟩ | ⟨instruction, -, rfl⟩
  · have hstands := h t ht
    cases htouch with
    | left => exact hstands.mono hhs hoff he.assistant he.clock_le
    | polled hpoll =>
      subst hpoll
      exact (hstands.poll hsilent ht).mono (List.Subset.refl _) hoff he.assistant he.clock_le
    | received hreceive => exact absurd hreceive (hx _)
    | calledOff hc =>
      have hlater := hstands.mono hhs hoff he.assistant he.clock_le
      exact hlater.abort (List.mem_append_right _ hc)
  · exact .queued rfl

/-- **What becomes of a request that is not answered**: it waits, or is called off, or runs out of
time. -/
theorem unanswered_after (s : Session) (transport : Transport) (h : transport.replies = none)
    {xs : List Action} (hx : ∀ answer, .receive task answer ∉ xs) :
    let d₀ := start s transport
    ∀ t, (d₀.after xs).desk.tasks[task]? = some t →
      Unanswered (d₀.handovers xs) (d₀.calledOff xs) (d₀.after xs) task t := by
  intro d₀
  suffices (d₀.after xs).desk.transport.replies = none ∧
      ((∀ answer, .receive task answer ∉ xs) →
        ∀ t, (d₀.after xs).desk.tasks[task]? = some t →
          Unanswered (d₀.handovers xs) (d₀.calledOff xs) (d₀.after xs) task t) from this.2 hx
  refine run_keeps (d := d₀) (P := fun xs d => d.desk.transport.replies = none ∧
    ((∀ answer, .receive task answer ∉ xs) → ∀ t, d.desk.tasks[task]? = some t →
      Unanswered (d₀.handovers xs) (d₀.calledOff xs) d task t))
    ⟨h, fun _ _ ht => by cases ht⟩ (fun xs x ih => ?_) xs
  obtain ⟨hsilent, hstands⟩ := ih
  have he := act_effect (d₀.after xs) x
  refine ⟨he.replies_eq_none hsilent, fun hx t' ht' => ?_⟩
  rw [handovers, calledOff, noted_concat, noted_concat]
  refine he.unanswered hsilent (fun answer heq => hx answer (by simp [heq])) ?_ ht'
  exact hstands fun answer hm => hx answer (List.mem_append_left _ hm)

/-- A request that was not answered has ended only because it was called off, or because it ran out
of time after it had run. -/
theorem Unanswered.result {off : List Nat} (h : Unanswered hs off d task t) {r : Result}
    (hr : t.progress = .finished r) : (r = .error .cancelled ∧ task ∈ off) ∨
      (r = .error (.timeout d.assistant.timeoutSeconds) ∧ ∃ o ∈ hs, o.task = task ∧
        (d.assistant.KeepsTime → o.time + d.assistant.timeoutSeconds ≤ d.desk.clock)) := by
  cases h with
  | queued hp | waiting _ _ hp =>
    rw [hp] at hr
    cases hr
  | calledOff hoff ho => exact .inl ⟨hoff.eq_cancelled hr, ho⟩
  | @timedOut o ho ht hp hle =>
    obtain rfl := Progress.finished.inj (hr.symm.trans hp)
    exact .inr ⟨rfl, o, ho, ht, fun hkeeps => Nat.le_trans (hkeeps o.time) hle⟩

/-- A slot whose request has ended is free. -/
theorem free_of_result? (hc : d.desk.Custody out) (hs : d.desk.slot = some task) {r : Result}
    (hr : d.desk.result? task = some r) :
    d.desk.isBusy = false ∧ ∀ instruction, (d.act (.ask instruction)).answer = some .done := by
  have hended : d.desk.isFinished task = true := Desk.isFinished_of_result? hr
  have hawaited : d.desk.awaited = none := by
    cases hw : d.desk.awaited with
    | none => rfl
    | some other =>
      rw [hc.apart (by simp [hw])] at hs
      cases hs
  refine ⟨by simp [Desk.isBusy, hs, hended], fun instruction => ?_⟩
  refine (startOutcome hc instruction).accepted.2 ⟨hawaited, fun other ho => ?_⟩
  obtain rfl := Option.some.inj (hs.symm.trans ho)
  exact hended

/-- Calling off through the slot tells whether a request is in it. -/
theorem cancel_found_iff (hc : d.desk.Custody out) :
    (d.act .cancel).answer = some (.found true) ↔ d.desk.slot.isSome = true := by
  have he := act_effect d .cancel
  generalize d.act .cancel = turn at he ⊢
  cases he with
  | idle hi =>
    cases hi with
    | blocked _ hw => simp [hc.apart hw]
    | notFound _ _ hs => simp [hs]
    | notThere hx => rcases hx with hx | hx <;> cases hx
  | canceled _ hs => simp [hs]

/-- **Calling off and running out of time.** In every dialogue that a run reaches, calling off a
request does what `Dialogue.CallOff` says, through the slot or without it, and the slot tells
whether it holds one, ended or not. A request that no answer comes for ends only because it was
called off or because of the time, and the latter not before the timeout has passed since its task
first ran. A slot whose request has ended takes a new one. -/
theorem cancellation_and_timeout (s : Session) (transport : Transport) (xs : List Action) :
    let d₀ := start s transport
    let d := d₀.after xs
    let a := Assistant.ofSettings s.settings.assist
    (∀ x, ∀ task ∈ d.callsOff x, CallOff d x task) ∧
    ((d.act .cancel).answer = some (.found true) ↔ d.desk.slot.isSome = true) ∧
    (transport.replies = none → ∀ task r, (∀ answer, .receive task answer ∉ xs) →
      d.desk.result? task = some r →
      (r = .error .cancelled ∧ task ∈ d₀.calledOff xs) ∨
      (r = .error (.timeout a.timeoutSeconds) ∧ ∃ h ∈ d₀.handovers xs, h.task = task ∧
        (a.KeepsTime → h.time + a.timeoutSeconds ≤ d.desk.clock))) ∧
    (∀ task r, d.desk.slot = some task → d.desk.result? task = some r →
      d.desk.isBusy = false ∧
        ∀ instruction, (d.act (.ask instruction)).answer = some .done) := by
  intro d₀ d a
  have hcustody : d.desk.Custody (d₀.delivered xs) := custody_after s transport xs
  have ha : d.assistant = a := assistant_after d₀ xs
  have hprompt : d.desk.Prompt := prompt_after s transport xs
  refine ⟨fun x task h => callOff hcustody hprompt h, cancel_found_iff hcustody,
    fun hsilent task r hx hr => ?_, fun task r hs hr => free_of_result? hcustody hs hr⟩
  obtain ⟨t, ht, hp⟩ := Desk.result?_eq_some_iff.1 hr
  rw [← ha]
  exact (unanswered_after s transport hsilent hx t ht).result hp

/-- A request that runs out of time, to the second; one that is called off after it was taken, while
the next one goes on; and one that gets the only reply after it was taken, although the next one is
called off. -/
theorem timeout_and_call_off :
    let d₀ := start (Session.start ⟨[]⟩ {}) .silent
    let late := [Action.ask "one".toList, .poll 0, .pass 60, .poll 0]
    let d := d₀.after late
    let two := [Action.ask "one".toList, .take, .ask "two".toList]
    let e := d₀.after two
    let replies : List Reply := [⟨true, some "DELETE".toList, none⟩]
    let f := (start (Session.start ⟨[]⟩ {}) (.scripted replies)).after two
    let polls := [Action.poll 0, .poll 1]
    (∃ h ∈ d₀.handovers late, h.task = 0 ∧ h.time + 60 ≤ d.desk.clock) ∧
    d.desk.result? 0 = some (.error (.timeout 60)) ∧
    (d.act (.ask "two".toList)).answer = some .done ∧
    CallOff d .cancel 0 ∧ d.desk.isFinished 0 = true ∧
    CallOff e (.cancelTask 0) 0 ∧ e.desk.isFinished 0 = false ∧ e.desk.isFinished 1 = false ∧
    (((e.act (.cancelTask 0)).dialogue.after [.poll 0]).act (.waitTaken 0)).answer =
      some (.result (some (.error .cancelled))) ∧
    CallOff f (.cancelTask 1) 1 ∧ (f.after polls).desk.result? 0 = some (.ok ["DELETE".toList]) ∧
    ((f.act (.cancelTask 1)).dialogue.after polls).desk.tasks[0]? =
      (f.after polls).desk.tasks[0]? := by
  intro d₀ late d two e replies f polls
  obtain ⟨hlate, -, hended, hfree⟩ := cancellation_and_timeout (Session.start ⟨[]⟩ {}) .silent late
  obtain ⟨htaken, -⟩ := cancellation_and_timeout (Session.start ⟨[]⟩ {}) .silent two
  obtain ⟨hscripted, -⟩ :=
    cancellation_and_timeout (Session.start ⟨[]⟩ {}) (.scripted replies) two
  have hanswer : ∀ answer, Action.receive 0 answer ∉ late := by simp [late]
  have hkeeps : (Assistant.ofSettings ({} : Settings).assist).KeepsTime :=
    Assistant.keepsTime_of_lt (by decide)
  have htimeout : d.desk.result? 0 = some (.error (.timeout 60)) := rfl
  have hzero : CallOff e (.cancelTask 0) 0 := htaken (.cancelTask 0) 0 (by decide)
  have hpolled : Action.poll 0 ∈ [Action.poll 0] := List.mem_singleton_self _
  obtain ⟨-, -, -, -, hwait⟩ := hzero.unfinished rfl [.poll 0]
  have hone : CallOff f (.cancelTask 1) 1 := hscripted (.cancelTask 1) 1 (by decide)
  have horder : ¬ [1, 0].Sublist ((f.handovers polls).map Handover.task) := by decide
  have hkept := hone.later 0 (by decide) (by decide) polls (.inr horder)
  rcases hended rfl 0 _ hanswer htimeout with ⟨hr, -⟩ | ⟨-, h, hm, ht, hle⟩
  · cases hr
  · exact ⟨⟨h, hm, ht, hle hkeeps⟩, htimeout, (hfree 0 _ rfl htimeout).2 _,
      hlate .cancel 0 (by decide), rfl, hzero, rfl, rfl, hwait hpolled (.waitTaken 0) rfl,
      hone, rfl, hkept⟩

/-- Calling off a request can change what becomes of another: the only reply is left for the second
request if the first is called off before it has run. -/
theorem call_off_leaves_reply :
    let d₀ := start (Session.start ⟨[]⟩ {}) (.scripted [⟨true, some "DELETE".toList, none⟩])
    let d := d₀.after [.ask "one".toList, .take, .ask "two".toList]
    let ys := [Action.poll 0, .poll 1]
    0 ∈ d.callsOff (.cancelTask 0) ∧ d.desk.isFinished 0 = false ∧ d.desk.isFinished 1 = false ∧
    (d.after ys).desk.result? 1 =
      some (.error (.communication "no scripted reply left".toList)) ∧
    ((d.act (.cancelTask 0)).dialogue.after ys).desk.result? 1 = some (.ok ["DELETE".toList]) ∧
    ¬ ∀ other < d.desk.tasks.length, other ≠ 0 → ∀ ys,
      ((d.act (.cancelTask 0)).dialogue.after ys).desk.result? other =
        (d.after ys).desk.result? other := by
  intro d₀ d ys
  have hwithout : (d.after ys).desk.result? 1 =
      some (.error (.communication "no scripted reply left".toList)) := rfl
  have hwith : ((d.act (.cancelTask 0)).dialogue.after ys).desk.result? 1 =
      some (.ok ["DELETE".toList]) := rfl
  refine ⟨by decide, rfl, rfl, hwithout, hwith, fun h => ?_⟩
  have hsame := h 1 (by decide) (by decide) ys
  rw [hwithout, hwith] at hsame
  cases hsame

end Dialogue

end EditScript
