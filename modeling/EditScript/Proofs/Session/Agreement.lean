import EditScript.Proofs.Session.Run

/-!
# Three ways to run lines

Pending lines can be run as one sequence, one by one by their ids, or one by one as texts that
are not queued. A sequence works on a copy of the state and commits at the end; the other two
commit after each line. What they end in is the same.

* `Session.performAll_executeTexts`, `Session.performAll_executeLines`: running lines one by one
  commits what a run of them gives. For queued lines the ids must be distinct, since each line is
  looked up again after the lines before it were marked.
* `Session.batch_agrees_with_steps`: the three ways agree in every session that a run reaches.
-/

namespace EditScript
namespace Session

/-- What the steps of a run answer, if its lines are run one by one. -/
def outcomes (trace : List TraceEntry) : List Answer := trace.map fun e => .outcome e.outcome

/-- The texts of the lines one by one. The queue is not looked at. -/
theorem performAll_executeTexts (ls : List Line) (hp : ∀ l ∈ ls, l.executed = false)
    (s : Session) :
    (s.performAll (ls.map fun l => .executeText l.text)).session =
        s.commitRun (Sequence.run ls s.state) ∧
      (s.performAll (ls.map fun l => .executeText l.text)).answer =
        outcomes (Sequence.run ls s.state).trace := by
  induction ls generalizing s with
  | nil => exact ⟨rfl, rfl⟩
  | cons l ls ih =>
    rw [Sequence.run_cons_pending (hp l List.mem_cons_self)]
    let o := Command.attempt l.text s.state
    let next : Session :=
      { s with state := o.applyTo s.state, log := s.log.push (commandEntry l.text o) }
    obtain ⟨hsession, hanswer⟩ := ih (fun x hx => hp x (List.mem_cons_of_mem l hx)) next
    exact ⟨hsession, congrArg (Answer.outcome o :: ·) hanswer⟩

/-- The lines one by one by their ids. After the first line its mark is in the queue, and the
other lines are still found as they were. -/
theorem performAll_executeLines (ls : List Line) (hp : ∀ l ∈ ls, l.executed = false)
    (hd : (ls.map Line.id).Nodup) (s : Session) (hq : s.queue.Distinct)
    (hf : ∀ l ∈ ls, l ∈ s.queue.lines) :
    (s.performAll (ls.map fun l => .executeLine l.id)).session =
        { s.commitRun (Sequence.run ls s.state) with queue := s.queue.mark (ls.map Line.id) } ∧
      (s.performAll (ls.map fun l => .executeLine l.id)).answer =
        outcomes (Sequence.run ls s.state).trace := by
  induction ls generalizing s with
  | nil => exact ⟨rfl, rfl⟩
  | cons l ls ih =>
    rw [List.map_cons, List.nodup_cons] at hd
    let o := Command.attempt l.text s.state
    let next : Session :=
      { s with
        state := o.applyTo s.state
        queue := s.queue.mark [l.id]
        log := s.log.push (commandEntry l.text o) }
    have hfirst : s.perform (.executeLine l.id) = ⟨.outcome o, next,
        changeEvents s.state (o.applyTo s.state) ++
          [.commandExecuted l.id o.success, .queueChanged]⟩ :=
      (Effect.executeLine (Queue.find?_of_mem hq (hf l List.mem_cons_self)) rfl).perform_eq
    have hkept : ∀ x ∈ ls, x ∈ next.queue.lines := fun x hx => by
      have hne : x.id ∉ [l.id] := fun hid =>
        hd.1 (List.mem_map.2 ⟨x, hx, List.mem_singleton.1 hid⟩)
      show x ∈ (s.queue.mark [l.id]).lines
      rw [Queue.lines_mark hq]
      exact List.mem_map.2 ⟨x, hf x (List.mem_cons_of_mem l hx), if_neg hne⟩
    obtain ⟨hsession, hanswer⟩ := ih (fun x hx => hp x (List.mem_cons_of_mem l hx)) hd.2 next
      (hq.mark [l.id]) hkept
    rw [Sequence.run_cons_pending (hp l List.mem_cons_self), List.map_cons, performAll, hfirst]
    exact ⟨hsession, congrArg (Answer.outcome o :: ·) hanswer⟩

/-- **A sequence, single lines and single texts agree.** In every session that a run reaches,
running the pending lines at once and running them one by one end in the same session, with the
same outcomes. Running their texts gives the same state, log and outcomes too, and leaves the
queue as it is. -/
theorem batch_agrees_with_steps (content : Buffer) (settings : Settings)
    (ops : List Operation) :
    let s := ((start content settings).performAll ops).session
    let batch := s.runPending
    let lines := s.performAll (s.queue.pending.map fun l => .executeLine l.id)
    let texts := s.performAll (s.queue.pending.map fun l => .executeText l.text)
    (lines.session = batch.session ∧ lines.answer = outcomes batch.answer) ∧
      texts.session = { batch.session with queue := s.queue } ∧
      texts.answer = outcomes batch.answer := by
  intro s batch lines texts
  have hnum : s.queue.Numbered s.made := numbered_performAll content settings ops
  have hp : ∀ l ∈ s.queue.pending, l.executed = false := fun l hl =>
    (Queue.mem_pending.1 hl).2
  have hanswer := s.runPending_answer
  have hsession := s.runPending_session
  obtain ⟨hl, hla⟩ := performAll_executeLines s.queue.pending hp hnum.distinct.pending s
    hnum.distinct fun l hl => (Queue.mem_pending.1 hl).1
  obtain ⟨ht, hta⟩ := performAll_executeTexts s.queue.pending hp s
  refine ⟨⟨hl.trans hsession.symm, ?_⟩, ?_, ?_⟩
  · rw [hla, hanswer]
  · rw [ht, hsession]
    rfl
  · rw [hta, hanswer]

end Session
end EditScript
