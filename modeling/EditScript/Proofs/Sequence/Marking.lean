import EditScript.Codec.Queue
import EditScript.Proofs.Queue.Slots
import EditScript.Proofs.Sequence

/-!
# Marking the lines of a run

A run takes the lines that are pending. What is noted afterwards are the ids that it tells, and an
id means the first line that has it. Where ids repeat, as they may in a queue that was read, these
are not the same lines: a later line of an id is run, but the first line of the id is marked.

* `Queue.Repeats`: an earlier line has the id of the line in a slot.
* `Queue.map_mark`: marking changes nothing of a line but its mark.
* `Queue.getElem?_mark_of_repeats`, `Queue.getElem?_mark_of_first`: what marking does to the line in
  a slot, for any ids. Marking one id keeps all ids, so repeating is the same notion at every step.
* `Sequence.attempted_lines_marked`: what is pending after a run, and when the run happens again.
-/

namespace EditScript
namespace Queue

variable {q : Queue} {i : Nat} {l : Line} {id : LineId}

/-- An earlier line of the queue has the id of the line in the slot. -/
def Repeats (q : Queue) (i : Nat) : Prop := ∃ j < i, ∃ id, q.ids[j]? = some id ∧ q.ids[i]? = some id

theorem getElem?_ids (hl : q.lines[i]? = some l) : q.ids[i]? = some l.id := by
  unfold ids
  rw [List.getElem?_map, hl]
  rfl

/-- Only the ids decide what is repeated. -/
theorem Repeats.of_ids {q' : Queue} (hids : q'.ids = q.ids) (h : q'.Repeats i) : q.Repeats i := by
  unfold Repeats at *
  rwa [hids] at h

/-! ## Changing the first line of an id -/

/-- What a change keeps of a line is kept of all lines. -/
theorem map_update {α : Type} {f : Line → α} {change : Line → Line} (hf : ∀ l, f (change l) = f l)
    (q : Queue) (id : LineId) : (q.update id change).lines.map f = q.lines.map f := by
  refine List.ext_getElem? fun i => ?_
  unfold update
  rw [List.getElem?_map, List.getElem?_map, List.getElem?_modify]
  cases q.lines[i]? with
  | none => rfl
  | some l =>
    split
    · exact congrArg some (hf l)
    · rfl

/-- A line that repeats an id is not the one that is found by it. -/
theorem getElem?_update_of_repeats (h : q.Repeats i) (hl : q.lines[i]? = some l)
    (change : Line → Line) : (q.update id change).lines[i]? = some l := by
  by_cases hid : l.id = id
  · obtain ⟨j, hj, id', hjd, hid'⟩ := h
    rw [getElem?_ids hl] at hid'
    cases hid'
    have hindex : (q.lines.findIdx fun x => x.id = id) ≠ i := by
      rintro rfl
      obtain ⟨hlt, hjid⟩ := List.getElem?_eq_some_iff.1 hjd
      have hnot := List.not_of_lt_findIdx hj
      simp only [ids, List.getElem_map] at hjid
      simp [hjid, hid] at hnot
    exact (List.getElem?_modify_ne change q.lines hindex).trans hl
  · exact getElem?_update hl hid change

/-- A line that repeats no id is the one that is found by its id. -/
theorem getElem?_update_of_first (h : ¬q.Repeats i) (hl : q.lines[i]? = some l)
    (change : Line → Line) : (q.update l.id change).lines[i]? = some (change l) := by
  obtain ⟨hlt, hget⟩ := List.getElem?_eq_some_iff.1 hl
  have hindex : (q.lines.findIdx fun x => x.id = l.id) = i := by
    rw [List.findIdx_eq hlt]
    refine ⟨by simp [hget], fun j hj => decide_eq_false fun hid => h ?_⟩
    have hjl : q.lines[j]? = some q.lines[j] := List.getElem?_eq_getElem (by omega)
    exact ⟨j, hj, l.id, hid ▸ getElem?_ids hjl, getElem?_ids hl⟩
  unfold update
  rw [hindex, List.getElem?_modify, hl]
  simp

/-! ## Marking -/

/-- Nothing of a line is changed but its mark. -/
theorem map_mark {α : Type} {f : Line → α} (hf : ∀ l : Line, f { l with executed := true } = f l)
    (q : Queue) (ids : List LineId) : (q.mark ids).lines.map f = q.lines.map f := by
  induction ids generalizing q with
  | nil => rfl
  | cons id ids ih => exact (ih (q.mark [id])).trans (map_update hf q id)

theorem ids_mark_one (q : Queue) (id : LineId) : (q.mark [id]).ids = q.ids :=
  map_mark (fun _ => rfl) q [id]

theorem getElem?_mark_of_repeats (h : q.Repeats i) (hl : q.lines[i]? = some l)
    (ids : List LineId) : (q.mark ids).lines[i]? = some l := by
  induction ids generalizing q with
  | nil => exact hl
  | cons id ids ih =>
    exact ih (h.of_ids (ids_mark_one q id).symm) (getElem?_update_of_repeats h hl _)

/-- By induction on the ids: the line may be marked by any of them, and several times. -/
theorem getElem?_mark_of_first (h : ¬q.Repeats i) (hl : q.lines[i]? = some l)
    (ids : List LineId) : (q.mark ids).lines[i]? = some (noted ids l) := by
  induction ids generalizing q l with
  | nil => exact hl
  | cons id ids ih =>
    have hnext : ¬(q.mark [id]).Repeats i := fun hr => h (hr.of_ids (ids_mark_one q id))
    by_cases hid : l.id = id
    · subst hid
      have hmarked := ih hnext (getElem?_update_of_first h hl _)
      rw [mark_cons, hmarked]
      unfold noted
      split <;> simp
    · have hkept := ih hnext (getElem?_update hl hid _)
      rw [mark_cons, hkept]
      simp [noted, hid]

/-- A line whose mark is set, or set now, is marked. -/
theorem executed_noted {ids : List LineId} (h : l.executed = false → l.id ∈ ids) :
    (noted ids l).executed = true := by
  unfold noted
  split
  · rfl
  · rename_i hid
    simpa using mt h hid

theorem noted_of_executed {ids : List LineId} (h : l.executed = true) : noted ids l = l := by
  obtain ⟨id, text, executed⟩ := l
  cases h
  unfold noted
  split <;> rfl

end Queue

namespace Sequence

variable {q : Queue} {i : Nat} {l l' : Line}

/-- A run tells the ids of all pending lines. -/
theorem mem_attempted_of_pending (hl : l ∈ q.lines) (hp : l.executed = false) (s : State) :
    l.id ∈ (run q.lines s).attempted := by
  rw [attempted_run]
  exact List.mem_map_of_mem (List.mem_filter.2 ⟨hl, by simp [hp]⟩)

/-- What a run leaves in a slot: the line as it was if it repeats an id, and the line with its mark
set if it does not. -/
theorem getElem?_mark_attempted (s : State) (hl : q.lines[i]? = some l)
    (hl' : (q.mark (run q.lines s).attempted).lines[i]? = some l') :
    (q.Repeats i ∧ l' = l) ∨ (¬q.Repeats i ∧ l'.executed = true) := by
  by_cases h : q.Repeats i
  · rw [Queue.getElem?_mark_of_repeats h hl] at hl'
    cases hl'
    exact .inl ⟨h, rfl⟩
  · rw [Queue.getElem?_mark_of_first h hl] at hl'
    cases hl'
    have hmem : l ∈ q.lines := List.mem_of_getElem? hl
    exact .inr ⟨h, Queue.executed_noted fun hp => mem_attempted_of_pending hmem hp s⟩

/-- Where every pending line repeats an id, the first lines of these ids are marked already. -/
theorem mark_attempted_eq_self (s : State)
    (h : ∀ i l, q.lines[i]? = some l → l.executed = false → q.Repeats i) :
    q.mark (run q.lines s).attempted = q := by
  refine congrArg Queue.mk (List.ext_getElem? fun i => ?_)
  cases hl : q.lines[i]? with
  | none =>
    rw [List.getElem?_eq_none_iff] at hl ⊢
    exact Nat.le_trans (Nat.le_of_eq (q.length_mark _)) hl
  | some l =>
    by_cases hr : q.Repeats i
    · exact Queue.getElem?_mark_of_repeats hr hl _
    · have hexecuted : l.executed = true := by simpa using mt (h i l hl) hr
      have hmark := Queue.getElem?_mark_of_first hr hl (run q.lines s).attempted
      rwa [Queue.noted_of_executed hexecuted] at hmark

/-- **What is pending after a run.** The attempted lines of any queue are marked. Ids and texts stay
in their slots, and a mark stays set. A line is pending afterwards if it was pending before and an
earlier line has its id, and in no other case. So nothing is pending where ids are distinct; where
all pending lines repeat ids, nothing is changed, and the same lines are run again. -/
theorem attempted_lines_marked (q : Queue) (s : State) :
    let after := q.mark (run q.lines s).attempted
    after.ids = q.ids ∧ after.lines.map Line.text = q.lines.map Line.text ∧
      (∀ i l l', q.lines[i]? = some l → after.lines[i]? = some l' →
        (l.executed = true → l'.executed = true) ∧
          (l'.executed = false ↔ l.executed = false ∧ q.Repeats i)) ∧
      (q.Distinct → after.pending = []) ∧
      ((∀ i l, q.lines[i]? = some l → l.executed = false → q.Repeats i) →
        after = q ∧ ∀ t : State,
          (run after.lines t).trace.map (fun e => (e.line, e.text)) =
            (run q.lines s).trace.map fun e => (e.line, e.text)) := by
  intro after
  have hids : after.ids = q.ids := Queue.map_mark (fun _ => rfl) q _
  refine ⟨hids, Queue.map_mark (fun _ => rfl) q _, fun i l l' hl hl' => ?_, fun hd => ?_,
    fun h => ?_⟩
  · rcases getElem?_mark_attempted s hl hl' with ⟨hr, rfl⟩ | ⟨hr, hexecuted⟩
    · exact ⟨id, by simp [hr]⟩
    · exact ⟨fun _ => hexecuted, by simp [hr, hexecuted]⟩
  · rw [Queue.pending_mark hd, List.filter_eq_nil_iff]
    intro l hl
    obtain ⟨hmem, hp⟩ := Queue.mem_pending.1 hl
    simpa using mem_attempted_of_pending hmem hp s
  · have heq : after = q := mark_attempted_eq_self s h
    refine ⟨heq, fun t => ?_⟩
    rw [heq, lines_trace, lines_trace]

/-- A queue that a document gives two lines of one id. Only the first of them has been run, and the
second is run again and again. -/
theorem repeated_line_runs_again :
    let line (text : String) (executed : Bool) : Json := .object [
      Json.member "id" (.ofString "0000000000000000000000000000000a"),
      Json.member "text" (.ofString text), Json.member "executed" (.bool executed)]
    let document : Json :=
      .object [Json.member "lines" (.array [line "MOVE 0" true, line "INSERT x" false])]
    let s : State := .ofBuffer ⟨['y']⟩
    ∃ q, Queue.ofJson? document = some q ∧
      (∀ i l, q.lines[i]? = some l → l.executed = false → q.Repeats i) ∧
      q.mark (run q.lines s).attempted = q ∧
      ((run q.lines (run q.lines s).final).trace.map fun e => e.text) = ["INSERT x".toList] := by
  intro line document s
  let id : LineId := .uuid 10
  let q : Queue := ⟨[⟨id, "MOVE 0".toList, true⟩, ⟨id, "INSERT x".toList, false⟩]⟩
  have hread : Queue.ofJson? document = some q := by decide +kernel
  have hrepeats : ∀ i l, q.lines[i]? = some l → l.executed = false → q.Repeats i := by
    rintro (_ | _ | i) l hl hp
    · cases hl
      cases hp
    · exact ⟨0, Nat.one_pos, id, rfl, rfl⟩
    · cases hl
  obtain ⟨-, -, -, -, hagain⟩ := attempted_lines_marked q s
  obtain ⟨hsame, hlines⟩ := hagain hrepeats
  have htexts := congrArg (List.map Prod.snd) (hlines (run q.lines s).final)
  rw [hsame, List.map_map, List.map_map] at htexts
  exact ⟨q, hread, hrepeats, hsame, htexts⟩

end Sequence
end EditScript
