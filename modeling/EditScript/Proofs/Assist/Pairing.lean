import EditScript.Proofs.Assist.Custody
import EditScript.Proofs.Assist.Ledger

/-!
# Which reply answers which request

A scripted transport gives its replies in the order in which requests reach it.

* `Assistant.resultOf`: what becomes of a request that is answered with a reply.
* `Dialogue.Paired`, `Dialogue.Effect.paired`: each request that has reached the transport is
  answered with the reply of its place, and the others have not ended or were called off.
* `Dialogue.ends_of_poll`: a request has ended once its task has gone on.
* `Dialogue.wait_newest`: waiting through the slot gives the result of the request that was started
  last, and leaves the slot empty.
* `Dialogue.replies_paired_with_requests`: what follows for every run.
-/

namespace EditScript

open Assist

namespace Assist

/-- What becomes of a request that is answered with a reply, or with none if none is left. -/
def Assistant.resultOf (a : Assistant) : Option Reply → Result
  | none => .error (.communication "no scripted reply left".toList)
  | some reply =>
    if reply.success then .ok (Script.ofReply a.stripCodeFences (reply.text.getD []))
    else .error (.rejected (reply.error.getD "assistant reported failure".toList))

theorem Assistant.resultOf_ne_timeout (a : Assistant) (reply : Option Reply) (seconds : Nat) :
    a.resultOf reply ≠ .error (.timeout seconds) := by
  unfold resultOf
  split
  · exact nofun
  · split <;> exact nofun

theorem Assistant.read_ok (a : Assistant) (reply : Reply) :
    a.read (.ok reply) = a.resultOf (some reply) := by
  obtain ⟨success, text, error⟩ := reply
  cases success <;> rfl

/-- A scripted transport takes a request and gives up a reply. -/
theorem Transport.send_scripted (replies : List Reply) (sent : List Request) (request : Request) :
    ((⟨some replies, sent⟩ : Transport).send request).2 =
      ⟨some (replies.drop 1), sent ++ [request]⟩ := by
  cases replies <;> rfl

theorem Transport.foldl_send_scripted (replies : List Reply) (sent : List Request)
    (hs : List Dialogue.Handover) :
    hs.foldl (fun (transport : Transport) o => (transport.send o.request).2) ⟨some replies, sent⟩ =
      ⟨some (replies.drop hs.length), sent ++ hs.map Dialogue.Handover.request⟩ := by
  induction hs generalizing replies sent with
  | nil => simp
  | cons o hs ih =>
    rw [List.foldl_cons, send_scripted, ih, List.drop_drop, List.length_cons, Nat.add_comm 1,
      List.append_assoc]
    rfl

/-- A task that runs for the first time is answered with the first of the replies that are left. -/
theorem Task.poll_scripted {a : Assistant} {clock : Nat} {t : Task} {transport : Transport}
    {replies : List Reply} {n : Nat} (hp : t.progress = .queued)
    (h : transport.replies = some (replies.drop n)) :
    (t.poll a clock transport).1.progress = .finished (a.resultOf replies[n]?) := by
  have hhead : (replies.drop n).head? = replies[n]? := List.head?_drop
  unfold Task.poll Transport.send
  rw [hp, h]
  cases hrest : replies.drop n with
  | nil =>
    rw [hrest, List.head?_nil] at hhead
    rw [← hhead]
    rfl
  | cons reply rest =>
    rw [hrest, List.head?_cons] at hhead
    rw [← hhead, ← a.read_ok]
    rfl

end Assist

namespace Dialogue

variable {d : Dialogue} {x : Action} {turn : Turn} {task : Nat} {t : Task}
  {replies : List Reply} {hs : List Handover} {off out : List Nat}

/-! ## Requests and replies -/

/-- How a task stands when requests have reached the transport in some order. -/
inductive Standing (a : Assistant) (replies : List Reply) (hs : List Handover) (off : List Nat)
    (task : Nat) (t : Task) : Prop
  | queued (hp : t.progress = .queued) (hh : task ∉ hs.map Handover.task)
  | calledOff (ht : t.CalledOff) (hh : task ∉ hs.map Handover.task) (ho : task ∈ off)
  | answered {i : Nat} {h : Handover} (hi : hs[i]? = some h) (ht : h.task = task)
      (hp : t.progress = .finished (a.resultOf replies[i]?))

/-- The requests that have reached the transport are recorded in their order, each has used up one
reply, and every task stands accordingly. -/
structure Paired (replies : List Reply) (hs : List Handover) (off : List Nat) (d : Dialogue) :
    Prop where
  transport : d.desk.transport = ⟨some (replies.drop hs.length), hs.map Handover.request⟩
  standing : ∀ task t, d.desk.tasks[task]? = some t →
    Standing d.assistant replies hs off task t

/-- Every action keeps replies and requests in pairs. -/
theorem Effect.paired (he : Effect d x turn) (hl : Ledger hs d) (h : Paired replies hs off d) :
    Paired replies (hs ++ d.handsOver x) (off ++ d.callsOff x) turn.dialogue where
  transport := by
    rw [he.transport, h.transport, Transport.foldl_send_scripted, List.drop_drop,
      List.length_append, List.map_append]
  standing task t' ht' := by
    have hledger := he.ledger hl
    rw [he.assistant]
    rcases he.touch_or_asked ht' with ⟨t, ht, htouch⟩ | ⟨instruction, -, rfl⟩
    · -- What has run, or was called off before, does not reach the transport now.
      have hnew : t.progress ≠ .queued → task ∉ (d.handsOver x).map Handover.task := by
        intro hp hm
        obtain ⟨o, ho, rfl⟩ := List.mem_map.1 hm
        obtain ⟨-, hq, -⟩ := mem_handsOver.1 ho
        obtain rfl := Option.some.inj (hq.symm.trans ht)
        exact hp rfl
      cases h.standing task t ht with
      | queued hp hh =>
        cases htouch with
        | left => exact .queued hp (hledger.not_mem ht' hp)
        | polled hx =>
          -- The request is the next in the order, and its reply the first that is left.
          subst hx
          have hlast : (hs ++ d.handsOver (.poll task))[hs.length]? =
              some ⟨task, t.request, d.desk.clock⟩ := by
            simp [handsOver_poll ht hp]
          exact .answered hlast rfl (Task.poll_scripted hp (by rw [h.transport]))
        | received =>
          have hsame : ∀ answer, (t.receive answer) = t := fun answer => by simp [Task.receive, hp]
          rw [hsame] at ht' ⊢
          exact .queued hp (hledger.not_mem ht' hp)
        | calledOff hc =>
          have hunfinished : t.isFinished = false := by simp [Task.isFinished, hp]
          rw [handsOver_of_callsOff hc, List.append_nil]
          exact .calledOff (Task.calledOff_abort hunfinished) hh (List.mem_append_right _ hc)
      | calledOff hoff hh ho =>
        refine .calledOff (htouch.calledOff_of hoff) ?_ (List.mem_append_left _ ho)
        rw [List.map_append, List.mem_append]
        rintro (hm | hm)
        · exact hh hm
        · exact hnew hoff.ne_queued hm
      | answered hi hth hp =>
        refine .answered (List.getElem?_append_left ?_ ▸ hi) hth (htouch.finished hp ▸ hp)
        exact (List.getElem?_eq_some_iff.1 hi).1
    · exact .queued rfl (hledger.not_mem ht' rfl)

theorem paired_after (s : Session) (replies : List Reply) (xs : List Action) :
    let d₀ := start s (.scripted replies)
    Paired replies (d₀.handovers xs) (d₀.calledOff xs) (d₀.after xs) := by
  intro d₀
  refine run_keeps (P := fun xs => Paired replies (d₀.handovers xs) (d₀.calledOff xs))
    ⟨rfl, fun _ _ ht => by cases ht⟩ (fun xs x h => ?_) xs
  rw [handovers, calledOff, noted_concat, noted_concat]
  exact (act_effect _ x).paired (ledger_after s _ xs) h

namespace Paired

/-- A request that has reached the transport has ended in what the reply of its place says. -/
theorem result (h : Paired replies hs off d) (hl : Ledger hs d) {i : Nat} {o : Handover}
    (ho : hs[i]? = some o) : d.desk.result? o.task = some (d.assistant.resultOf replies[i]?) := by
  have hm : o ∈ hs := List.mem_of_getElem? ho
  have hmem : o.task ∈ hs.map Handover.task := List.mem_map_of_mem hm
  obtain ⟨t, ht, -⟩ := hl.ran o hm
  refine Desk.result?_eq_some_iff.2 ⟨t, ht, ?_⟩
  cases h.standing o.task t ht with
  | queued _ hh => exact absurd hmem hh
  | calledOff _ hh => exact absurd hmem hh
  | @answered j o' ho' htask hp =>
    have hlt : i < (hs.map Handover.task).length := by
      rw [List.length_map]
      exact (List.getElem?_eq_some_iff.1 ho).1
    have hij : i = j := by
      refine (List.getElem?_inj hlt hl.once).1 ?_
      rw [List.getElem?_map, List.getElem?_map, ho, ho', Option.map_some, Option.map_some, htask]
    rw [hij]
    exact hp

/-- Nothing ends because of the time, and what has ended without reaching the transport was called
off. -/
theorem of_result (h : Paired replies hs off d) {r : Result} (hr : d.desk.result? task = some r) :
    (∀ seconds, r ≠ .error (.timeout seconds)) ∧
      (task ∉ hs.map Handover.task → r = .error .cancelled ∧ task ∈ off) := by
  obtain ⟨t, ht, hp⟩ := Desk.result?_eq_some_iff.1 hr
  cases h.standing task t ht with
  | queued hq =>
    rw [hq] at hp
    cases hp
  | calledOff hoff _ ho =>
    obtain rfl := hoff.eq_cancelled hp
    exact ⟨fun _ => nofun, fun _ => ⟨rfl, ho⟩⟩
  | answered ho htask hended =>
    obtain rfl := Progress.finished.inj (hp.symm.trans hended)
    refine ⟨d.assistant.resultOf_ne_timeout _, fun hh => absurd ?_ hh⟩
    exact htask ▸ List.mem_map_of_mem (List.mem_of_getElem? ho)

/-- A request that is called off before it has reached the transport does not reach it. -/
theorem not_handedOver (h : Paired replies hs off d) (hc : d.desk.Custody out)
    (hoff : task ∈ d.callsOff x) (hh : task ∉ hs.map Handover.task) (ys : List Action) :
    task ∉ ((d.act x).dialogue.handovers ys).map Handover.task := by
  obtain ⟨t, ht⟩ := exists_task_of_callsOff hc hoff
  obtain ⟨t', ht', htouch⟩ := (act_effect d x).touch ht
  refine not_handedOver_of_calledOff ht' ?_ ys
  cases h.standing task t ht with
  | queued hp =>
    cases htouch with
    | left _ _ hleft => exact absurd hoff hleft
    | polled hx | received hx =>
      subst hx
      cases hoff
    | calledOff => exact Task.calledOff_abort (by simp [Task.isFinished, hp])
  | calledOff hcalled => exact htouch.calledOff_of hcalled
  | answered ho htask =>
    exact absurd (htask ▸ List.mem_map_of_mem (List.mem_of_getElem? ho)) hh

end Paired

/-- **A request has ended once its task has gone on.** -/
theorem ends_of_poll (h : Paired replies hs off d) (ht : d.desk.tasks[task]? = some t) :
    ∃ r, (d.act (.poll task)).dialogue.desk.result? task = some r := by
  obtain ⟨t', ht', htouch⟩ := (act_effect d (.poll task)).touch ht
  suffices ∃ r, t'.progress = .finished r by
    obtain ⟨r, hr⟩ := this
    exact ⟨r, Desk.result?_eq_some_iff.2 ⟨t', ht', hr⟩⟩
  cases htouch with
  | left hp => exact absurd rfl hp
  | polled =>
    cases h.standing task t ht with
    | queued hp => exact ⟨_, Task.poll_scripted hp (by rw [h.transport])⟩
    | calledOff hoff => exact ⟨_, hoff.poll⟩
    | answered _ _ hp =>
      refine ⟨_, Eq.trans ?_ hp⟩
      simp only [Task.poll, hp]
  | received hx => cases hx
  | calledOff hc => cases hc

/-! ## Waiting through the slot -/

theorem waitsFor_poll (d : Dialogue) (x : Action) (task : Nat) :
    (d.act (.poll task)).dialogue.waitsFor x = d.waitsFor x := by
  have he := act_effect d (.poll task)
  generalize d.act (.poll task) = turn at he ⊢
  cases he with
  | idle => rfl
  | polled => cases x <;> rfl

/-- What the slot is for is the request that was started last. -/
theorem newest_of_fronts (s : Session) (transport : Transport) (xs : List Action)
    (h : ((start s transport).after xs).desk.fronts task) :
    ∃ q, ((start s transport).asked xs).getLast? = some q ∧ q.task = task := by
  have hlast := (custody_after s transport xs).last task h
  have htasks := congrArg List.getLast? (asked_after s transport xs)
  rw [List.getLast?_map, List.getLast?_range, ← hlast] at htasks
  exact Option.map_eq_some_iff.1 (by simpa using htasks)

/-- Waiting through the slot gives a result only of the request that the slot is for, and leaves the
slot empty then. -/
theorem wait_result {r : Result} (h : (d.act .wait).answer = some (.result (some r))) :
    ∃ task, d.desk.fronts task ∧ d.desk.result? task = some r ∧
      (d.act .wait).dialogue.desk.slot = none ∧ (d.act .wait).dialogue.desk.awaited = none := by
  have he := act_effect d .wait
  generalize d.act .wait = turn at he h ⊢
  cases he with
  | idle hi =>
    cases hi with
    | blocked hx => cases hx
    | notFound hx | notThere hx => rcases hx with hx | hx <;> cases hx
    | nothingAwaited => cases h
  | @collected task r hs hr =>
    cases h
    exact ⟨task, Desk.fronts_of_or hs, hr, rfl, rfl⟩
  | waiting => cases h

/-- **Replies are paired with requests.** In every dialogue with a scripted transport that a run
reaches, the requests that have reached the transport are recorded in the order in which their tasks
ran for the first time, no task twice, and as many replies are used up; each of them has ended in
what the reply of its place says. A request that has ended without reaching the transport was called
off, and one that is called off before it has run never reaches it. Nothing ends because of the
time. A task has ended once it has gone on, and whoever waits for it is given the result then. What
is given through the slot is the result of the request that was started last, and the slot is empty
then; no result is given out twice. -/
theorem replies_paired_with_requests (s : Session) (replies : List Reply) (xs : List Action) :
    let d₀ := start s (.scripted replies)
    let d := d₀.after xs
    let hs := d₀.handovers xs
    let a := Assistant.ofSettings s.settings.assist
    (d.desk.transport = ⟨some (replies.drop hs.length), hs.map Handover.request⟩ ∧
      (hs.map Handover.task).Nodup ∧
      ∀ h ∈ hs, (d.desk.tasks[h.task]?).map Task.request = some h.request) ∧
    (∀ (i : Nat) (h : Handover), hs[i]? = some h →
      d.desk.result? h.task = some (a.resultOf replies[i]?)) ∧
    (∀ task r, d.desk.result? task = some r →
      (∀ seconds, r ≠ .error (.timeout seconds)) ∧
      (task ∉ hs.map Handover.task → r = .error .cancelled ∧ task ∈ d₀.calledOff xs)) ∧
    (∀ ys c zs, xs = ys ++ c :: zs → ∀ task ∈ (d₀.after ys).callsOff c,
      task ∉ (d₀.handovers ys).map Handover.task → task ∉ hs.map Handover.task) ∧
    (∀ task x, d.waitsFor x = some task → ∃ r,
      ((d.act (.poll task)).dialogue.act x).answer = some (.result (some r))) ∧
    (d.waitsFor .wait = none → d.act .wait = ⟨some (.result none), d, []⟩) ∧
    (∀ r, (d.act .wait).answer = some (.result (some r)) → ∃ q,
      (d₀.asked xs).getLast? = some q ∧ d.desk.fronts q.task ∧ d.desk.result? q.task = some r ∧
      (d.act .wait).dialogue.desk.slot = none ∧ (d.act .wait).dialogue.desk.awaited = none) ∧
    (d₀.delivered xs).Nodup := by
  intro d₀ d hs a
  have hpaired : Paired replies hs (d₀.calledOff xs) d := paired_after s replies xs
  have hledger : Ledger hs d := ledger_after s _ xs
  have ha : d.assistant = a := assistant_after d₀ xs
  have hcustody : d.desk.Custody (d₀.delivered xs) := custody_after s _ xs
  refine ⟨⟨hpaired.transport, hledger.once, fun h hm => ?_⟩, fun i h hi => ?_,
    fun task r hr => ?_, fun ys c zs hxs task hc hh => ?_, fun task x hx => ?_, wait_of_none,
    fun r hr => ?_, ?_⟩
  · obtain ⟨t, ht, hreq, -⟩ := hledger.ran h hm
    rw [ht, Option.map_some, hreq]
  · rw [← ha]
    exact hpaired.result hledger hi
  · exact hpaired.of_result hr
  · subst hxs
    have hys := (paired_after s replies ys).not_handedOver (custody_after s _ ys) hc hh zs
    rw [show hs = _ from noted_append _ d₀ ys (c :: zs), List.map_append, List.mem_append]
    rintro (hm | hm)
    · exact hh hm
    · refine hys ?_
      have hnone : (d₀.after ys).handsOver c = [] := handsOver_of_callsOff hc
      simpa [noted, hnone] using hm
  · have hpolled := waitsFor_poll d x task
    obtain ⟨t, ht⟩ := exists_task_of_waitsFor hcustody hx
    obtain ⟨r, hr⟩ := ends_of_poll hpaired ht
    refine ⟨r, ?_⟩
    rw [answer_of_waitsFor (hpolled.trans hx), hr]
    rfl
  · obtain ⟨task, hfront, hresult, hslot, hawaited⟩ := wait_result hr
    obtain ⟨q, hq, rfl⟩ := newest_of_fronts s _ xs hfront
    exact ⟨q, hq, hfront, hresult, hslot, hawaited⟩
  · exact (List.nodup_append.1 hcustody.once).2.1

/-- Two requests at once, of which the first is called off before it has run: the only reply goes to
the second. -/
theorem only_reply_to_second :
    let s := Session.start ⟨[]⟩ {}
    let replies := [⟨true, some "DELETE".toList, none⟩]
    let xs := [Action.ask "one".toList, .take, .ask "two".toList, .cancelTask 0, .poll 1, .poll 0]
    let d₀ := start s (.scripted replies)
    let d := d₀.after xs
    (d₀.handovers xs).map Handover.task = [1] ∧ d.desk.transport.replies = some [] ∧
    d.desk.result? 1 = some (.ok ["DELETE".toList]) ∧
    d.desk.result? 0 = some (.error .cancelled) ∧ 0 ∈ d₀.calledOff xs ∧
    (∃ q, (d₀.asked xs).getLast? = some q ∧ d.desk.fronts q.task ∧
      d.desk.result? q.task = some (.ok ["DELETE".toList])) := by
  intro s replies xs d₀ d
  obtain ⟨⟨htransport, -⟩, hresult, hended, -, -, -, hwait, -⟩ :=
    replies_paired_with_requests s replies xs
  have hhand : (d₀.handovers xs).map Handover.task = [1] := rfl
  have hmissing : 0 ∉ (d₀.handovers xs).map Handover.task := by simp [hhand]
  obtain ⟨-, hcancelled⟩ := hended 0 (.error .cancelled) rfl
  obtain ⟨q, hq, hfront, hqr, -⟩ := hwait (.ok ["DELETE".toList]) rfl
  have hreplies : d.desk.transport.replies = some [] := congrArg Transport.replies htransport
  exact ⟨hhand, hreplies, hresult 0 _ rfl, rfl, (hcancelled hmissing).2, q, hq, hfront, hqr⟩

end Dialogue

end EditScript
