import EditScript.Proofs.Queue.Slots
import EditScript.Proofs.Session.Run

/-!
# Slots in the queue of a session

A session does nothing to its queue but what can be done with any queue.

* `Session.onQueue`: what an operation does to the queue, as operations on queues.
* `Session.replaced`: the ids that are replaced in a run, read off its answers.
* `Session.Effect.onQueue`, `Session.onQueue_performAll`: an operation does nothing else to the
  queue, and so does a run.
* `Session.lines_keep_slots`: what becomes of slots and ids, in runs of queues and in runs of
  sessions.
-/

namespace EditScript
namespace Session

/-- The queue of a session, with the number of lines made so far. -/
def stage (s : Session) : Queue.Stage := ⟨s.queue, s.made⟩

/-- What an operation does to the queue. -/
def onQueue (s : Session) : Operation → List Queue.Operation
  | .enqueue text => [.push text]
  | .acceptReply texts => [.extend texts]
  | .editLine id text => [.edit id text]
  | .replaceLine id text => [.replace id text]
  | .executeLine id => [.mark [id]]
  | .runPending => [.mark (s.queue.pending.map Line.id)]
  | .setState _ | .setCursor _ | .setSelection _ | .executeText _ | .recordInstruction _
  | .recordAssistFailure _ => []

/-- What a run does to the queue. -/
def onQueueAll : Session → List Operation → List Queue.Operation
  | _, [] => []
  | s, op :: ops => s.onQueue op ++ onQueueAll (s.perform op).session ops

/-- The number of lines that an operation queues. -/
def Operation.queued : Operation → Nat
  | .enqueue _ => 1
  | .acceptReply texts => texts.length
  | _ => 0

/-- The id that an operation takes out of the queue, as its answer tells. -/
def exchanged : Operation → Answer → List LineId
  | .replaceLine id _, .line _ => [id]
  | _, _ => []

/-- The ids that are replaced in a run. -/
def replaced : Session → List Operation → List LineId
  | _, [] => []
  | s, op :: ops => exchanged op (s.perform op).answer ++ replaced (s.perform op).session ops

variable {s : Session} {op : Operation} {step : Step Answer}

/-- **An operation does to the queue what is done with any queue.** -/
theorem Effect.onQueue (he : Effect s op step) :
    step.session.stage = s.stage.after (s.onQueue op) ∧
      exchanged op step.answer = s.stage.replaced (s.onQueue op) := by
  cases he with
  | setState | setCursor | cursorRefused | setSelection | selectionRefused | executeText
  | recordInstruction | recordAssistFailure => exact ⟨rfl, rfl⟩
  | enqueue | acceptReply | executeLine => exact ⟨rfl, rfl⟩
  | editLine text h =>
    exact Queue.Stage.run_singleton (Queue.Stage.perform_edit_of_find? (a := s.stage) h text)
  | replaceLine text h =>
    exact Queue.Stage.run_singleton (Queue.Stage.perform_replace_of_find? (a := s.stage) h text)
  | @lineNotFound op id hop h =>
    obtain ⟨hedit, hreplace, hmark⟩ := Queue.Stage.perform_of_find?_eq_none (a := s.stage) h
    cases op with
    | editLine i text =>
      cases hop
      exact Queue.Stage.run_singleton (hedit text)
    | replaceLine i text =>
      cases hop
      exact Queue.Stage.run_singleton (hreplace text)
    | executeLine i =>
      cases hop
      exact Queue.Stage.run_singleton hmark
    | _ => cases hop
  | runPending _ hr =>
    subst hr
    rw [Sequence.attempted_pending]
    exact ⟨rfl, rfl⟩
  | nothingPending h =>
    simp only [Session.onQueue, h]
    exact ⟨rfl, rfl⟩

/-- A run does to the queue what is done with any queue, and replaces the same ids. -/
theorem onQueue_performAll (s : Session) (ops : List Operation) :
    (s.performAll ops).session.stage = s.stage.after (s.onQueueAll ops) ∧
      s.replaced ops = s.stage.replaced (s.onQueueAll ops) := by
  induction ops generalizing s with
  | nil => exact ⟨rfl, rfl⟩
  | cons op ops ih =>
    obtain ⟨hstage, hgone⟩ := (perform_effect s op).onQueue
    obtain ⟨hlater, hlaterGone⟩ := ih (s.perform op).session
    rw [onQueueAll, Queue.Stage.after_append, Queue.Stage.replaced_append, ← hstage, ← hgone]
    exact ⟨hlater, congrArg _ hlaterGone⟩

/-- An operation queues the lines that it pushes. -/
theorem sum_pushed_onQueue (s : Session) (op : Operation) :
    ((s.onQueue op).map Queue.Operation.pushed).sum = op.queued := by
  cases op <;> rfl

/-- The queue of a session has one slot for each line that was queued. -/
theorem length_performAll (s : Session) (ops : List Operation) :
    (s.performAll ops).session.queue.length =
      s.queue.length + (ops.map Operation.queued).sum := by
  have hpushed : ((s.onQueueAll ops).map Queue.Operation.pushed).sum =
      (ops.map Operation.queued).sum := by
    induction ops generalizing s with
    | nil => rfl
    | cons op ops ih =>
      rw [onQueueAll, List.map_append, List.sum_append, ih, sum_pushed_onQueue, List.map_cons,
        List.sum_cons]
  rw [← hpushed]
  have hlength := Queue.Stage.length_after s.stage (s.onQueueAll ops)
  rwa [← (onQueue_performAll s ops).1] at hlength

/-- **Lines keep their slots, and ids are not used again.** This is so in every run of a queue and
in every run of a session, from each queue that it reaches to each later one. The number of slots is
the number of lines that were pushed. A slot keeps its id unless that is replaced, and then a
pending line with a new id takes the slot. An id that was replaced is found by no operation after
that, and an operation on a line leaves the other lines as they are. A session does nothing to its
queue but what is done with any queue. -/
theorem lines_keep_slots :
    (∀ ops later : List Queue.Operation,
      let a := Queue.Stage.empty.after ops
      a.queue.length = (ops.map Queue.Operation.pushed).sum ∧
        a.Steady (a.replaced later) (a.after later)) ∧
    ∀ (content : Buffer) (settings : Settings) (ops later : List Operation),
      let s := ((start content settings).performAll ops).session
      let t := (s.performAll later).session
      s.queue.length = (ops.map Operation.queued).sum ∧
        s.stage.Steady (s.replaced later) t.stage ∧
        (∀ op, (t.perform op).session.stage = t.stage.after (t.onQueue op)) ∧
        ∀ id ∈ s.replaced later, ∀ op, op.line? = some id →
          t.perform op = ⟨.refused (.lineNotFound id), t, []⟩ := by
  constructor
  · intro ops later a
    have ha : a.queue.Numbered a.made := Queue.Stage.numbered_after .empty ops
    refine ⟨?_, (Queue.Stage.leads_after ha later).steady ha (Queue.Stage.numbered_after ha later)⟩
    rw [Queue.Stage.length_after]
    exact Nat.zero_add _
  · intro content settings ops later s t
    have hs : s.stage.queue.Numbered s.stage.made := numbered_performAll content settings ops
    have hsteady : s.stage.Steady (s.replaced later) t.stage := by
      obtain ⟨hstage, hgone⟩ := onQueue_performAll s later
      rw [hstage, hgone]
      exact (Queue.Stage.leads_after hs _).steady hs (Queue.Stage.numbered_after hs _)
    refine ⟨?_, hsteady, fun op => (perform_effect t op).onQueue.1, fun id hid op hop => ?_⟩
    · rw [length_performAll]
      exact Nat.zero_add _
    · exact perform_of_find?_eq_none hop (hsteady.dead id hid).1

/-- A line that is replaced and run, where the one after it keeps its slot. Its first id is not
found by a session nor in a queue. -/
theorem first_id_gone_after_replacing :
    let s := ((start ⟨[]⟩ {}).performAll
      [.enqueue "MOVE 0".toList, .enqueue "DELETE".toList]).session
    let later : List Operation := [.replaceLine (.made 0) "INSERT a".toList, .runPending]
    let t := (s.performAll later).session
    let a := Queue.Stage.empty.after [.extend ["MOVE 0".toList, "DELETE".toList]]
    let laterQueue : List Queue.Operation := [.replace (.made 0) "INSERT a".toList]
    .made 0 ∈ s.replaced later ∧ .made 1 ∉ s.replaced later ∧
      t.queue.ids = [.made 2, .made 1] ∧
      (∃ l, t.queue.lines[1]? = some l ∧ l.id = .made 1) ∧
      t.perform (.executeLine (.made 0)) = ⟨.refused (.lineNotFound (.made 0)), t, []⟩ ∧
      .made 0 ∈ a.replaced laterQueue ∧
      (a.after laterQueue).queue.find? (.made 0) = none := by
  intro s later t a laterQueue
  obtain ⟨hqueues, hsessions⟩ := lines_keep_slots
  obtain ⟨-, hsteady, -, hrefused⟩ := hsessions ⟨[]⟩ {}
    [.enqueue "MOVE 0".toList, .enqueue "DELETE".toList] later
  obtain ⟨-, hsteady'⟩ := hqueues [.extend ["MOVE 0".toList, "DELETE".toList]] laterQueue
  have hgone : .made 0 ∈ s.replaced later := List.mem_singleton.2 rfl
  have hkept : .made 1 ∉ s.replaced later := by decide
  have hgone' : .made 0 ∈ a.replaced laterQueue := List.mem_singleton.2 rfl
  exact ⟨hgone, hkept, rfl, hsteady.kept 1 (.fresh 1 "DELETE".toList) rfl hkept,
    hrefused (.made 0) hgone (.executeLine (.made 0)) rfl, hgone', (hsteady'.dead _ hgone').1⟩

end Session
end EditScript
