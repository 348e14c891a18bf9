import EditScript.Sequence
import EditScript.Proofs.Buffer.Edit
import EditScript.Proofs.State.Parts

/-!
# What a command does

Everything that a command can do in a state, said once, and what comes of folding it into the
state.

* `Outcome.overlay`: the parts that an outcome and a state give together, before anything is
  checked.
* `Command.Effect`, `Command.execute_effect`: the outcome of each command, with the condition
  under which it arises. No case reports an error of the buffer
  (`Command.Effect.error_ne_buffer`).
* `Command.Effect.overlay_withinBounds`: the overlay of a command that succeeds lies within
  bounds, so `Outcome.applyTo` always accepts it (`Command.parts_applyTo`).
* `Command.parts_applyTo_attempt`: the overlay of a line is the next state in any case.
* `Command.attempt_cases`: a line that is no command changes nothing.
-/

namespace EditScript

open State (Parts)

namespace Outcome

variable {o : Outcome} {s : State}

/-- What the outcome carries, and the parts of the state for what it does not carry. -/
def overlay (o : Outcome) (s : State) : Parts :=
  ⟨o.content.getD s.content, o.cursor.getD s.cursor, o.selection.getD s.selection⟩

theorem applyTo_of_not_success (h : o.success = false) : o.applyTo s = s := by
  unfold applyTo
  rw [h]
  rfl

/-- An overlay within bounds is the next state. -/
theorem parts_applyTo (h : o.success = true) (hw : (o.overlay s).WithinBounds) :
    (o.applyTo s).parts = o.overlay s := by
  obtain ⟨next, hnext, hparts⟩ := hw.exists_state
  simp only [overlay] at hnext
  unfold applyTo
  rw [if_pos h, hnext]
  exact hparts

end Outcome

namespace Command

/-- What a command does in a state: the cases of `Command.execute`. -/
inductive Effect (s : State) : Command → Outcome → Prop
  | moved {position : Nat} (h : position ≤ s.length) :
      Effect s (.move position)
        ⟨some (.move position), s!"Moved cursor to {position}", none, none, some position,
          some (.caret position)⟩
  | moveRefused {position : Nat} (h : s.length < position) :
      Effect s (.move position)
        (.failure (some (.move position)) (.positionOutOfRange position s.length))
  | selected {start stop : Nat} (h₁ : start ≤ stop) (h₂ : stop ≤ s.length) :
      Effect s (.select start stop)
        ⟨some (.select start stop), s!"Selected {start}-{stop}", none, none, none,
          some ⟨start, stop⟩⟩
  | selectRefused {start stop : Nat} (h : stop < start ∨ s.length < stop) :
      Effect s (.select start stop)
        (.failure (some (.select start stop)) (.invalidRange start stop s.length))
  | replaced {text : Text} (h : s.hasSelection = true) :
      Effect s (.insert text)
        (edited (.insert text) s!"Replaced {s.selection.display} with {text.length} chars"
          (s.content.splice s.selection.start s.selection.stop text)
          (s.selection.start + text.length))
  | inserted {text : Text} (h : s.hasSelection = false) :
      Effect s (.insert text)
        (edited (.insert text) s!"Inserted {text.length} chars at {s.cursor}"
          (s.content.splice s.cursor s.cursor text) (s.cursor + text.length))
  | deletedSelection (h : s.hasSelection = true) :
      Effect s .delete
        (edited .delete s!"Deleted {s.selection.display}"
          (s.content.splice s.selection.start s.selection.stop []) s.selection.start)
  | deletedCharacter {before : Nat} (h : s.hasSelection = false) (hc : s.cursor = before + 1) :
      Effect s .delete
        (edited .delete s!"Deleted character at {before}"
          (s.content.splice before (before + 1) []) before)
  | deleteRefused (h : s.hasSelection = false) (hc : s.cursor = 0) :
      Effect s .delete (.failure (some .delete) .nothingToDelete)

private theorem move_effect (s : State) (position : Nat) :
    Effect s (.move position) ((Command.move position).execute s) := by
  by_cases h : s.length < position
  · have he : executeMove s position = .error (.positionOutOfRange position s.length) := by
      unfold executeMove
      rw [if_pos h]
    unfold execute
    simp only [he]
    exact .moveRefused h
  · unfold execute executeMove
    simp only [if_neg h]
    exact .moved (Nat.le_of_not_lt h)

private theorem select_effect (s : State) (start stop : Nat) :
    Effect s (.select start stop) ((Command.select start stop).execute s) := by
  by_cases h : stop < start ∨ s.length < stop
  · unfold execute executeSelect
    simp only [if_pos h]
    exact .selectRefused h
  · unfold execute executeSelect
    simp only [if_neg h]
    exact .selected (by omega) (by omega)

private theorem insert_effect (s : State) (text : Text) :
    Effect s (.insert text) ((Command.insert text).execute s) := by
  cases h : s.hasSelection with
  | true =>
    have he := Buffer.replace_eq_ok text s.start_le_stop s.stop_le
    unfold execute executeInsert
    simp only [h, he]
    exact .replaced h
  | false =>
    have he := Buffer.insert_eq_ok text s.cursor_le
    unfold execute executeInsert
    simp only [h, he]
    exact .inserted h

private theorem delete_effect (s : State) : Effect s .delete (Command.delete.execute s) := by
  cases h : s.hasSelection with
  | true =>
    have he := Buffer.delete_eq_ok s.start_le_stop s.stop_le
    unfold execute executeDelete
    simp only [h, he]
    exact .deletedSelection h
  | false =>
    unfold execute executeDelete
    simp only [h]
    cases hc : s.cursor with
    | zero => exact .deleteRefused h hc
    | succ before =>
      have hle : before + 1 ≤ s.content.length := hc ▸ s.cursor_le
      have he := Buffer.delete_eq_ok (Nat.le_succ before) hle
      simp only [he]
      exact .deletedCharacter h hc

/-- **What a command does in a state** is one of the cases of `Command.Effect`. -/
theorem execute_effect (c : Command) (s : State) : Effect s c (c.execute s) := by
  cases c with
  | move position => exact move_effect s position
  | select start stop => exact select_effect s start stop
  | insert text => exact insert_effect s text
  | delete => exact delete_effect s

namespace Effect

variable {s : State} {c : Command} {o : Outcome}

/-- No command is refused by the buffer. -/
theorem error_ne_buffer (h : Effect s c o) (e : BufferError) : o.error ≠ some (.buffer e) := by
  cases h <;> intro he <;> cases he

/-- An outcome without success carries nothing. -/
theorem carries_nothing (h : Effect s c o) (hs : o.success = false) :
    o.content = none ∧ o.cursor = none ∧ o.selection = none := by
  cases h with
  | moveRefused | selectRefused | deleteRefused => exact ⟨rfl, rfl, rfl⟩
  | moved | selected | replaced | inserted | deletedSelection | deletedCharacter => cases hs

private theorem edited_withinBounds {message : String} {content : Buffer} {cursor : Nat}
    (h : cursor ≤ content.length) :
    ((edited c message content cursor).overlay s).WithinBounds := ⟨h, Nat.le_refl _, h⟩

/-- The overlay of a command that succeeds lies within bounds: the new cursor is counted on the
new content, and a selection is kept only with the content that it was made for. -/
theorem overlay_withinBounds (h : Effect s c o) (hw : s.parts.WithinBounds)
    (hs : o.success = true) : (o.overlay s).WithinBounds := by
  cases h with
  | moved h => exact ⟨h, Nat.le_refl _, h⟩
  | selected h₁ h₂ => exact ⟨hw.cursor_le, h₁, h₂⟩
  | replaced => exact edited_withinBounds (Buffer.le_length_splice _ hw.start_le_stop hw.stop_le)
  | inserted => exact edited_withinBounds (Buffer.le_length_splice _ (Nat.le_refl _) hw.cursor_le)
  | deletedSelection =>
    exact edited_withinBounds (Buffer.le_length_splice [] hw.start_le_stop hw.stop_le)
  | @deletedCharacter before _ hc =>
    have hle : before + 1 ≤ s.content.length := hc ▸ hw.cursor_le
    exact edited_withinBounds (Buffer.le_length_splice [] (Nat.le_succ before) hle)
  | moveRefused | selectRefused | deleteRefused => cases hs

end Effect

/-- The next state of a command that succeeds holds what the outcome carries, and what it does
not carry is as before. -/
theorem parts_applyTo (c : Command) {s : State} (hw : s.parts.WithinBounds)
    (hs : (c.execute s).success = true) :
    ((c.execute s).applyTo s).parts = (c.execute s).overlay s :=
  Outcome.parts_applyTo hs ((c.execute_effect s).overlay_withinBounds hw hs)

/-- A line either has the effect of its command or is rejected. -/
theorem attempt_effect (line : Text) (s : State) :
    (∃ c, parse line = .ok c ∧ Effect s c (attempt line s)) ∨
      ∃ e, parse line = .error e ∧ attempt line s = .rejected e := by
  unfold attempt
  cases parse line with
  | ok c => exact .inl ⟨c, rfl, execute_effect c s⟩
  | error e => exact .inr ⟨e, rfl, rfl⟩

/-- A line that fails carries nothing, whether it is a command or not. -/
theorem attempt_carries_nothing {line : Text} {s : State} (h : (attempt line s).success = false) :
    (attempt line s).content = none ∧ (attempt line s).cursor = none ∧
      (attempt line s).selection = none := by
  rcases attempt_effect line s with ⟨c, -, heffect⟩ | ⟨e, -, heq⟩
  · exact heffect.carries_nothing h
  · rw [heq]
    exact ⟨rfl, rfl, rfl⟩

/-- **The overlay of a line is the next state**, whether the line fails or not. -/
theorem parts_applyTo_attempt (line : Text) (s : State) :
    ((attempt line s).applyTo s).parts = (attempt line s).overlay s := by
  cases h : (attempt line s).success with
  | true =>
    rcases attempt_effect line s with ⟨c, -, heffect⟩ | ⟨e, -, heq⟩
    · exact Outcome.parts_applyTo h (heffect.overlay_withinBounds s.withinBounds_parts h)
    · rw [heq] at h
      cases h
  | false =>
    obtain ⟨hcontent, hcursor, hselection⟩ := attempt_carries_nothing h
    rw [Outcome.applyTo_of_not_success h]
    unfold Outcome.overlay
    rw [hcontent, hcursor, hselection]
    rfl

/-- A line either is a command, which is executed, or leaves every state as it is. -/
theorem attempt_cases (line : Text) (s : State) :
    (∃ c : Command, attempt line s = c.execute s) ∨ (attempt line s).applyTo s = s := by
  unfold attempt
  cases parse line with
  | ok c => exact .inl ⟨c, rfl⟩
  | error e => exact .inr (Outcome.applyTo_of_not_success rfl)

end Command
end EditScript
