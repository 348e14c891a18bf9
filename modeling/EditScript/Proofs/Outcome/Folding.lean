import EditScript.Proofs.Outcome

/-!
# Folding outcomes of any origin

An outcome need not come from a command that was executed in the state that it is folded into. It
may have been put together by hand, or found in another state, and then its parts may fit neither
each other nor the state. It is folded in as a whole or not at all.

* `Outcome.Fits`: the outcome has no error, and its parts and those that it leaves alone lie within
  bounds. This can be decided.
* `Outcome.Fits.parts_applyTo`, `Outcome.applyTo_of_not_fits`: what is folded in, and what is not.
* `Outcome.overlay_of_parts_eq`: an outcome leaves nothing to do where it has been laid over.
* `Outcome.folded_whole_or_dropped`: what a fold leads to, and that a second one leads nowhere else.
-/

namespace EditScript

open State (Parts)

instance : DecidablePred Parts.WithinBounds := fun p =>
  decidable_of_iff
    (p.cursor ≤ p.content.length ∧ p.selection.start ≤ p.selection.stop ∧
      p.selection.stop ≤ p.content.length)
    ⟨fun ⟨h₁, h₂, h₃⟩ => ⟨h₁, h₂, h₃⟩, fun h => ⟨h.cursor_le, h.start_le_stop, h.stop_le⟩⟩

namespace Outcome

variable {o : Outcome} {s t : State}

/-- The outcome has no error, and what it carries fits what it leaves alone. -/
structure Fits (o : Outcome) (s : State) : Prop where
  error_eq_none : o.error = none
  withinBounds : (o.overlay s).WithinBounds

theorem Fits.parts_applyTo (h : o.Fits s) : (o.applyTo s).parts = o.overlay s :=
  Outcome.parts_applyTo (Option.isNone_iff_eq_none.2 h.error_eq_none) h.withinBounds

/-- What does not fit is dropped, whatever the reason. -/
theorem applyTo_of_not_fits (h : ¬o.Fits s) : o.applyTo s = s := by
  cases hs : o.success with
  | false => exact applyTo_of_not_success hs
  | true =>
    have hw : ¬(o.overlay s).WithinBounds := fun hw => h ⟨Option.isNone_iff_eq_none.1 hs, hw⟩
    obtain ⟨e, he⟩ := State.exists_ofParts_eq_error_iff.2 hw
    unfold applyTo
    rw [if_pos hs, he]

/-- A part that the outcome carries is there already, and a part that it does not carry was kept. -/
theorem overlay_of_parts_eq (h : t.parts = o.overlay s) : o.overlay t = o.overlay s := by
  injection h with hcontent hcursor hselection
  unfold overlay
  rw [hcontent, hcursor, hselection]
  cases o.content <;> cases o.cursor <;> cases o.selection <;> rfl

/-- What fits once fits again, and leads to the same state. -/
theorem Fits.applyTo_applyTo (h : o.Fits s) : o.applyTo (o.applyTo s) = o.applyTo s := by
  have hoverlay : o.overlay (o.applyTo s) = o.overlay s := overlay_of_parts_eq h.parts_applyTo
  have hagain : o.Fits (o.applyTo s) := ⟨h.error_eq_none, hoverlay ▸ h.withinBounds⟩
  refine State.parts_injective ?_
  rw [hagain.parts_applyTo, hoverlay, h.parts_applyTo]

/-- **An outcome is folded in as a whole or dropped**, and doing so twice is doing it once. The
state after any outcome lies within bounds. It consists of the parts of the outcome, and of those of
the state for parts that the outcome does not carry, if the outcome has no error and these together
are within bounds; otherwise it is the state itself. -/
theorem folded_whole_or_dropped (o : Outcome) (s : State) :
    let merged : Parts :=
      ⟨o.content.getD s.content, o.cursor.getD s.cursor, o.selection.getD s.selection⟩
    (o.applyTo s).parts.WithinBounds ∧
      (if o.error = none ∧ merged.WithinBounds then (o.applyTo s).parts = merged
        else o.applyTo s = s) ∧
      o.applyTo (o.applyTo s) = o.applyTo s := by
  intro merged
  refine ⟨State.withinBounds_parts _, ?_⟩
  by_cases h : o.Fits s
  · refine ⟨?_, h.applyTo_applyTo⟩
    rw [if_pos ⟨h.error_eq_none, h.withinBounds⟩]
    exact h.parts_applyTo
  · have hs : o.applyTo s = s := applyTo_of_not_fits h
    refine ⟨?_, congrArg o.applyTo hs⟩
    rw [if_neg fun ⟨herror, hw⟩ => h ⟨herror, hw⟩]
    exact hs

/-- Shorter content alone leaves the cursor behind, and is dropped. With a cursor and a selection of
its own it is folded in. -/
example :
    let s : State := ⟨⟨['a', 'b']⟩, 2, ⟨0, 2⟩, by decide, by decide, by decide⟩
    let shorter : Outcome := ⟨none, "", none, some ⟨['a']⟩, none, none⟩
    shorter.applyTo s = s ∧
      ({ shorter with cursor := some 1, selection := some (.caret 0) }.applyTo s).parts =
        ⟨⟨['a']⟩, 1, .caret 0⟩ := by
  decide

end Outcome
end EditScript
