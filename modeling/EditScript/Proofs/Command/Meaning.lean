import EditScript.Proofs.Outcome

/-!
# What the commands mean

The four commands written down once more, as functions on a list of characters, an offset and a
pair of offsets. There are no buffers that could refuse an edit, and no outcomes to fold in.

* `State.Parts.exchange`: a range of the characters gives way to a text, and the cursor stands after
  the text.
* `Command.meaning`: what each command comes to, or why it fails.
* `Outcome.succeeded`: the outcome of a command that succeeds. `MOVE` and `SELECT` never carry a
  content, and `SELECT` no cursor.
* `Command.execute_means`: every command, executed in any state and folded into it, comes to what it
  means.
-/

namespace EditScript

open State (Parts)

namespace State

/-- The characters from `start` up to `stop` give way to a text. The cursor stands after the text,
and nothing is selected. -/
def Parts.exchange (p : Parts) (start stop : Nat) (text : Text) : Parts where
  content := ⟨p.content.chars.take start ++ text ++ p.content.chars.drop stop⟩
  cursor := start + text.length
  selection := ⟨start + text.length, start + text.length⟩

end State

namespace Command

/-- The command changes the text. -/
def isEdit : Command → Bool
  | insert _ | delete => true
  | move _ | select _ _ => false

/-- What a command comes to. -/
def meaning (p : Parts) : Command → Except CommandError Parts
  | move position =>
    if position ≤ p.content.chars.length then
      .ok { p with cursor := position, selection := ⟨position, position⟩ }
    else .error (.positionOutOfRange position p.content.chars.length)
  | select start stop =>
    if start ≤ stop ∧ stop ≤ p.content.chars.length then
      .ok { p with selection := ⟨start, stop⟩ }
    else .error (.invalidRange start stop p.content.chars.length)
  | insert text =>
    if p.selection.start < p.selection.stop then
      .ok (p.exchange p.selection.start p.selection.stop text)
    else .ok (p.exchange p.cursor p.cursor text)
  | delete =>
    if p.selection.start < p.selection.stop then
      .ok (p.exchange p.selection.start p.selection.stop [])
    else if 0 < p.cursor then .ok (p.exchange (p.cursor - 1) p.cursor [])
    else .error .nothingToDelete

end Command

/-- The outcome of a command that succeeds, with the parts that it leads to. -/
def Outcome.succeeded (c : Command) (message : String) (next : Parts) : Outcome where
  command := some c
  message := message
  error := none
  content := if c.isEdit then some next.content else none
  cursor := if c.keyword = .select then none else some next.cursor
  selection := some next.selection

namespace Command

variable {s : State} {c : Command} {o : Outcome}

/-- The outcome of a command is that of its meaning, and what the outcome carries is what differs
from the state. -/
theorem Effect.means (h : Effect s c o) :
    match c.meaning s.parts with
    | .ok next => o = .succeeded c o.message next ∧ o.overlay s = next
    | .error e => o = .failure (some c) e := by
  cases h with
  | @moved position h =>
    have hm : (move position).meaning s.parts = .ok _ := if_pos h
    rw [hm]
    exact ⟨rfl, rfl⟩
  | @moveRefused position h =>
    have hm : (move position).meaning s.parts = .error _ := if_neg (Nat.not_le.2 h)
    rw [hm]
    rfl
  | @selected start stop h₁ h₂ =>
    have hm : (select start stop).meaning s.parts = .ok _ := if_pos ⟨h₁, h₂⟩
    rw [hm]
    exact ⟨rfl, rfl⟩
  | @selectRefused start stop h =>
    have hm : (select start stop).meaning s.parts = .error _ := if_neg fun ⟨h₁, h₂⟩ =>
      h.elim (Nat.not_lt.2 h₁) (Nat.not_lt.2 h₂)
    rw [hm]
    rfl
  | @replaced text h =>
    have hm : (insert text).meaning s.parts = .ok _ := if_pos (State.hasSelection_eq_true_iff.1 h)
    rw [hm]
    exact ⟨rfl, rfl⟩
  | @inserted text h =>
    have hm : (insert text).meaning s.parts = .ok _ := if_neg (State.hasSelection_eq_false_iff.1 h)
    rw [hm]
    exact ⟨rfl, rfl⟩
  | deletedSelection h =>
    have hm : delete.meaning s.parts = .ok _ := if_pos (State.hasSelection_eq_true_iff.1 h)
    rw [hm]
    exact ⟨rfl, rfl⟩
  | @deletedCharacter before h hc =>
    have hpos : 0 < s.parts.cursor := by
      show 0 < s.cursor
      omega
    have hm : delete.meaning s.parts = .ok _ :=
      (if_neg (State.hasSelection_eq_false_iff.1 h)).trans (if_pos hpos)
    have hbefore : s.parts.exchange (s.parts.cursor - 1) s.parts.cursor [] =
        ⟨s.content.splice before (before + 1) [], before, .caret before⟩ := by
      show s.parts.exchange (s.cursor - 1) s.cursor [] = _
      rw [hc]
      rfl
    rw [hm, hbefore]
    exact ⟨rfl, rfl⟩
  | deleteRefused h hc =>
    have hzero : ¬0 < s.parts.cursor := Nat.not_lt.2 (Nat.le_of_eq hc)
    have hm : delete.meaning s.parts = .error _ :=
      (if_neg (State.hasSelection_eq_false_iff.1 h)).trans (if_neg hzero)
    rw [hm]

/-- A command that means something succeeds, and leads there. -/
theorem of_meaning_eq_ok {next : Parts} (h : c.meaning s.parts = .ok next) :
    c.execute s = .succeeded c (c.execute s).message next ∧
      ((c.execute s).applyTo s).parts = next := by
  have hmeans := (c.execute_effect s).means
  rw [h] at hmeans
  obtain ⟨ho, hoverlay⟩ := hmeans
  have hsuccess : (c.execute s).success = true := by
    rw [ho]
    rfl
  exact ⟨ho, (c.parts_applyTo s.withinBounds_parts hsuccess).trans hoverlay⟩

/-- A command that means an error fails with it, and changes nothing. -/
theorem of_meaning_eq_error {e : CommandError} (h : c.meaning s.parts = .error e) :
    c.execute s = .failure (some c) e ∧ (c.execute s).applyTo s = s := by
  have ho := (c.execute_effect s).means
  rw [h] at ho
  refine ⟨ho, Outcome.applyTo_of_not_success ?_⟩
  rw [ho]
  rfl

/-- **Every command does what it means.** In every state, a command that means something has an
outcome without an error, which carries the content if the command is an edit, the cursor unless it
selects, and the selection; folded into the state it leads to exactly the parts that the command
means. A command that means an error has an outcome that carries the error and nothing else, and
leaves the state as it is. -/
theorem execute_means (c : Command) (s : State) :
    let o := c.execute s
    match c.meaning s.parts with
    | .ok next =>
      o = ⟨some c, o.message, none, if c.isEdit then some next.content else none,
          if c.keyword = .select then none else some next.cursor, some next.selection⟩ ∧
        (o.applyTo s).parts = next
    | .error e =>
      o = ⟨some c, e.message, some e, none, none, none⟩ ∧ o.applyTo s = s := by
  intro o
  cases h : c.meaning s.parts with
  | ok next => exact of_meaning_eq_ok h
  | error e => exact of_meaning_eq_error h

end Command
end EditScript
