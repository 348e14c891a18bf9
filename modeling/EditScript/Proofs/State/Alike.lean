import Mathlib.Data.List.Forall2
import EditScript.Context
import EditScript.Proofs.Outcome
import EditScript.Proofs.Sequence

/-!
# Where nothing is selected

`SELECT 3 3` leaves a selection without characters, at an offset that the cursor need not be at.
That offset is part of the state, but nothing depends on it.

* `State.Alike`: two states that differ in nothing else.
* `State.Alike.context`, `State.Alike.selected?`: they are shown alike.
* `State.Alike.execute`, `State.Alike.applyTo`: a command has the same outcome in both and leads to
  states that are alike again; `State.Alike.attempt` and `State.Alike.next` say it of a line.
* `Sequence.caret_offset_unobservable`: what follows for every run.
-/

namespace EditScript

namespace State

/-- The states have the same content and cursor, and the same selection if there are characters
selected in either. -/
structure Alike (s t : State) : Prop where
  content : s.content = t.content
  cursor : s.cursor = t.cursor
  selection : s.selection = t.selection ∨
    s.selection.isCaret = true ∧ t.selection.isCaret = true

namespace Alike

variable {s t : State}

theorem symm (h : s.Alike t) : t.Alike s :=
  ⟨h.content.symm, h.cursor.symm, h.selection.imp Eq.symm And.symm⟩

/-- Either the states are the same, or nothing is selected in both. -/
theorem eq_or_carets (h : s.Alike t) :
    s = t ∨ s.hasSelection = false ∧ t.hasSelection = false := by
  rcases h.selection with hsel | ⟨hs, ht⟩
  · exact .inl (State.ext h.content h.cursor hsel)
  · refine .inr ⟨?_, ?_⟩
    · simp [hasSelection, hs]
    · simp [hasSelection, ht]

theorem selected? (h : s.Alike t) : s.selected? = t.selected? := by
  rcases h.eq_or_carets with rfl | ⟨hs, ht⟩
  · rfl
  · simp [State.selected?, hs, ht]

/-- The assistant cannot tell the states apart. -/
theorem context (h : s.Alike t) (settings : Settings.Render) :
    s.context settings = t.context settings := by
  rcases h.eq_or_carets with rfl | ⟨hs, ht⟩
  · rfl
  · -- The selection itself is only shown if there is a selected text.
    have hnone : s.selected? = none := by simp [State.selected?, hs]
    have hnone' : t.selected? = none := by simp [State.selected?, ht]
    have hposition : s.position = t.position := by
      unfold position
      rw [h.content, h.cursor]
    have hmarked : s.markedLine settings.cursorMarker = t.markedLine settings.cursorMarker := by
      unfold markedLine currentLine
      rw [h.content, hposition]
    unfold State.context
    rw [hnone, hnone', hposition, hmarked, h.content, h.cursor]

/-- A command looks at the selection only if something is selected. -/
theorem execute (h : s.Alike t) (c : Command) : c.execute s = c.execute t := by
  rcases h.eq_or_carets with rfl | ⟨hs, ht⟩
  · rfl
  · have hlength : s.length = t.length := congrArg Buffer.length h.content
    cases c with
    | move position => simp only [Command.execute, Command.executeMove, hlength]
    | select start stop => simp only [Command.execute, Command.executeSelect, hlength]
    | insert text =>
      simp only [Command.execute, Command.executeInsert, hs, ht, h.content, h.cursor,
        Bool.false_eq_true, ↓reduceIte]
    | delete =>
      simp only [Command.execute, Command.executeDelete, hs, ht, h.content, h.cursor,
        Bool.false_eq_true, ↓reduceIte]

/-- What an outcome does not carry is taken from states that are alike. -/
private theorem of_overlay {o : Outcome} {s' t' : State} (h : s.Alike t)
    (hs : s'.parts = o.overlay s) (ht : t'.parts = o.overlay t) : s'.Alike t' := by
  injection hs with hs₁ hs₂ hs₃
  injection ht with ht₁ ht₂ ht₃
  refine ⟨?_, ?_, ?_⟩
  · rw [hs₁, ht₁, h.content]
  · rw [hs₂, ht₂, h.cursor]
  · rw [hs₃, ht₃]
    cases o.selection with
    | none => exact h.selection
    | some selection => exact .inl rfl

theorem applyTo (h : s.Alike t) (c : Command) :
    ((c.execute s).applyTo s).Alike ((c.execute t).applyTo t) := by
  have ho := h.execute c
  cases hsuccess : (c.execute s).success with
  | false =>
    rw [Outcome.applyTo_of_not_success hsuccess,
      Outcome.applyTo_of_not_success (by rw [← ho]; exact hsuccess)]
    exact h
  | true =>
    have hs := c.parts_applyTo s.withinBounds_parts hsuccess
    have ht := c.parts_applyTo t.withinBounds_parts (ho ▸ hsuccess)
    rw [ho] at hs ⊢
    exact h.of_overlay hs ht

/-- A line that is no command is rejected without a look at the state. -/
theorem attempt (h : s.Alike t) (line : Text) :
    Command.attempt line s = Command.attempt line t := by
  unfold Command.attempt
  cases Command.parse line with
  | ok c => exact h.execute c
  | error e => rfl

theorem next (h : s.Alike t) (line : Text) :
    ((Command.attempt line s).applyTo s).Alike ((Command.attempt line t).applyTo t) := by
  unfold Command.attempt
  cases Command.parse line with
  | ok c => exact h.applyTo c
  | error e =>
    rw [Outcome.applyTo_of_not_success rfl, Outcome.applyTo_of_not_success rfl]
    exact h

end Alike
end State

namespace Sequence

variable {s t : State}

theorem run_alike (h : s.Alike t) (ls : List Line) :
    (run ls s).trace = (run ls t).trace ∧ (run ls s).final.Alike (run ls t).final := by
  induction ls generalizing s t with
  | nil => exact ⟨rfl, h⟩
  | cons l ls ih =>
    cases hex : l.executed with
    | true =>
      rw [run_cons_executed hex, run_cons_executed hex]
      exact ih h
    | false =>
      obtain ⟨htrace, hfinal⟩ := ih (h.next l.text)
      rw [run_cons_pending hex, run_cons_pending hex]
      refine ⟨?_, hfinal⟩
      show _ :: _ = _ :: _
      rw [htrace, h.attempt]

theorem statesOfLines_alike (h : s.Alike t) (ls : List Line) :
    List.Forall₂ State.Alike (statesOfLines ls s) (statesOfLines ls t) := by
  induction ls generalizing s t with
  | nil => exact .cons h .nil
  | cons l ls ih =>
    unfold statesOfLines
    rw [List.scanl_cons, List.scanl_cons]
    exact .cons h (ih (h.next l.text))

/-- **Where nothing is selected cannot be observed.** Let two states have the same content and
cursor, and no selected character. Then a run of lines has the same outcomes in both. After every
line the states that it has led to are alike, have the same selected text, and are shown alike
under all settings. -/
theorem caret_offset_unobservable {s t : State} (hcontent : s.content = t.content)
    (hcursor : s.cursor = t.cursor) (hs : s.selection.isCaret = true)
    (ht : t.selection.isCaret = true) (ls : List Line) :
    let pending := ls.filter fun l => !l.executed
    let view := fun a b : State =>
      a.Alike b ∧ a.selected? = b.selected? ∧
        ∀ settings : Settings.Render, a.context settings = b.context settings
    (run ls s).trace = (run ls t).trace ∧
      List.Forall₂ view (statesOfLines pending s) (statesOfLines pending t) ∧
      view (run ls s).final (run ls t).final := by
  intro pending view
  have h : s.Alike t := ⟨hcontent, hcursor, .inr ⟨hs, ht⟩⟩
  have hview : ∀ a b : State, a.Alike b → view a b := fun a b hab =>
    ⟨hab, hab.selected?, hab.context⟩
  obtain ⟨htrace, hfinal⟩ := run_alike h ls
  exact ⟨htrace, (statesOfLines_alike h pending).imp hview, hview _ _ hfinal⟩

/-- After `SELECT 3 3` with the cursor at the start, text is put in at the start, as if nothing had
been selected at all. -/
theorem insertion_ignores_caret_offset :
    let s : State := ⟨⟨"abc".toList⟩, 0, .caret 3, by decide, by decide, by decide⟩
    let t : State := ⟨⟨"abc".toList⟩, 0, .caret 0, by decide, by decide, by decide⟩
    let ls := [Line.fresh 0 "INSERT x".toList, .fresh 1 "DELETE".toList, .fresh 2 "DELETE".toList]
    s ≠ t ∧ s.selection.isCaret = true ∧ t.selection.isCaret = true ∧
      (run ls s).trace = (run ls t).trace := by
  intro s t ls
  obtain ⟨htrace, -, -⟩ := caret_offset_unobservable (s := s) (t := t) rfl rfl rfl rfl ls
  exact ⟨by decide, rfl, rfl, htrace⟩

end Sequence
end EditScript
