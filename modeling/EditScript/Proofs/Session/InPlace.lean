import EditScript.Session
import EditScript.Proofs.Change
import EditScript.Proofs.Queue

/-!
# Operations in place

An operation that may be refused works on a session step by step, and what it has done by then would
stay. Here is what each of them leaves, one lemma for when it is done and one for when it is
refused. A line is edited or replaced before it is known whether it is there; the queue that comes
back is then the one that was there before.

* `Session.changeState_of_ok`, `Session.changeState_of_error`: the cursor and the selection.
* `Session.editLine_of_found`, `Session.replaceLine_of_found`, `Session.executeLine_of_found`: the
  operations on a line, if it is there.
* `Session.editLine_of_missing`, `Session.replaceLine_of_missing`, `Session.executeLine_of_missing`:
  the same, if it is not.
-/

namespace EditScript

namespace Session

variable {s : Session} {id : LineId} {l : Line}

/-! ## The state -/

/-- **The state that comes of the live one is put in its place.** -/
theorem changeState_of_ok {f : State → Except BufferError State} {state : State}
    (h : f s.state = .ok state) (past : List Event) :
    changeState f ⟨s, past⟩ = .ok () ⟨{ s with state := state }, past ++ [.bufferChanged]⟩ := by
  unfold changeState
  rw [Live.bind_now, h]
  rfl

/-- **If there is none, nothing is done.** -/
theorem changeState_of_error {f : State → Except BufferError State} {e : BufferError}
    (h : f s.state = .error e) (past : List Event) :
    changeState f ⟨s, past⟩ = .error (.buffer e) ⟨s, past⟩ := by
  unfold changeState
  rw [Live.bind_now, h]
  rfl

/-! ## Lines -/

theorem changeQueue_eq {α : Type} {f : Queue → α × Queue} {a : α} {q : Queue}
    (h : f s.queue = (a, q)) (past : List Event) :
    changeQueue f ⟨s, past⟩ = .ok a ⟨{ s with queue := q }, past⟩ := by
  simp only [changeQueue, Live.update, h]

theorem editLine_of_found (h : s.queue.find? id = some l) (text : Text) (past : List Event) :
    editLine id text ⟨s, past⟩ =
      .ok () ⟨{ s with queue := (s.queue.edit id text).2 }, past ++ [.queueChanged]⟩ := by
  have hedited : s.queue.edit id text = (true, (s.queue.edit id text).2) := by
    simp only [Queue.edit, h, Option.isSome_some]
  unfold editLine
  rw [Change.bind_of_ok (changeQueue_eq hedited past)]
  rfl

theorem editLine_of_missing (h : s.queue.find? id = none) (text : Text) (past : List Event) :
    editLine id text ⟨s, past⟩ = .error (.lineNotFound id) ⟨s, past⟩ := by
  unfold editLine
  rw [Change.bind_of_ok (changeQueue_eq (Queue.edit_of_find?_eq_none h text) past)]
  rfl

theorem replaceLine_of_found (h : s.queue.find? id = some l) (text : Text) (past : List Event) :
    replaceLine id text ⟨s, past⟩ = .ok (.made s.made)
      ⟨{ s with queue := (s.queue.replace id s.made text).2, made := s.made + 1 },
        past ++ [.queueChanged]⟩ := by
  have hreplaced : s.queue.replace id s.made text =
      (some (.made s.made), (s.queue.replace id s.made text).2) := by
    simp only [Queue.replace, h, Option.map_some]
  unfold replaceLine
  rw [Live.bind_now, Change.bind_of_ok (changeQueue_eq hreplaced past)]
  rfl

theorem replaceLine_of_missing (h : s.queue.find? id = none) (text : Text) (past : List Event) :
    replaceLine id text ⟨s, past⟩ = .error (.lineNotFound id) ⟨s, past⟩ := by
  unfold replaceLine
  rw [Live.bind_now,
    Change.bind_of_ok (changeQueue_eq (Queue.replace_of_find?_eq_none h s.made text) past)]
  rfl

/-- **A line that is run is marked**, and what comes of it is committed and announced. -/
theorem executeLine_of_found {o : Outcome} (h : s.queue.find? id = some l)
    (ho : Command.attempt l.text s.state = o) (past : List Event) :
    executeLine id ⟨s, past⟩ = .ok o
      ⟨{ s with
          state := o.applyTo s.state
          queue := s.queue.mark [id]
          log := s.log.push (commandEntry l.text o) },
        past ++ (changeEvents s.state (o.applyTo s.state) ++
          [.commandExecuted id o.success, .queueChanged])⟩ := by
  subst ho
  have hevents (changes : List Event) (executed : Event) :
      past ++ (changes ++ [executed, .queueChanged]) =
        past ++ changes ++ [executed] ++ [.queueChanged] := by
    simp only [List.append_assoc, List.cons_append, List.nil_append]
  unfold executeLine
  rw [Live.bind_now, h, hevents]
  rfl

theorem executeLine_of_missing (h : s.queue.find? id = none) (past : List Event) :
    executeLine id ⟨s, past⟩ = .error (.lineNotFound id) ⟨s, past⟩ := by
  unfold executeLine
  rw [Live.bind_now, h]
  rfl

end Session
end EditScript
