import EditScript.Buffer.State

/-!
# The parts of a state

A state keeps its bounds in its type. Here the bounds are a property of three values that need
not fit together, so that one can ask whether they hold before a state is made of them.

* `State.Parts`, `State.Parts.WithinBounds`: a content, a cursor and a selection, and the bounds.
* `State.withinBounds_parts`, `State.parts_injective`: a state has its parts within bounds, and is
  known by them.
* `State.ofParts_eq_ok_iff`: a state is made of its own parts and of no others.
* `State.withinBounds_of_ofParts`, `State.Parts.WithinBounds.exists_state`: what is accepted
  lies within bounds, and what lies within bounds is accepted as it stands.
* `State.exists_ofParts_eq_error_iff`: the rest is refused.
* `State.hasSelection_eq_true_iff`: something is selected if the selection does not end where it
  starts.
-/

namespace EditScript
namespace State

/-- A content, a cursor and a selection. -/
@[ext]
structure Parts where
  /-- The text. -/
  content : Buffer
  /-- An offset. -/
  cursor : Nat
  /-- A pair of offsets. -/
  selection : Selection
  deriving DecidableEq

/-- The parts fit together: the cursor and the selection lie within the content, and the
selection is in order. -/
structure Parts.WithinBounds (p : Parts) : Prop where
  cursor_le : p.cursor ≤ p.content.length
  start_le_stop : p.selection.start ≤ p.selection.stop
  stop_le : p.selection.stop ≤ p.content.length

/-- The parts of a state. -/
def parts (s : State) : Parts := ⟨s.content, s.cursor, s.selection⟩

theorem withinBounds_parts (s : State) : s.parts.WithinBounds :=
  ⟨s.cursor_le, s.start_le_stop, s.stop_le⟩

theorem parts_injective {s t : State} (h : s.parts = t.parts) : s = t := by
  injection h with hcontent hcursor hselection
  exact State.ext hcontent hcursor hselection

theorem ofParts_eq_ok_iff {content : Buffer} {cursor : Nat} {selection : Selection} {s : State} :
    ofParts content cursor selection = .ok s ↔ s.parts = ⟨content, cursor, selection⟩ := by
  constructor
  · intro h
    unfold ofParts at h
    split at h
    · cases h
    · split at h
      · cases h
      · split at h
        · cases h
        · cases h
          rfl
  · intro h
    injection h with h₁ h₂ h₃
    subst h₁ h₂ h₃
    exact s.ofParts_self

/-- Parts within bounds are accepted as they stand. -/
theorem Parts.WithinBounds.exists_state {p : Parts} (h : p.WithinBounds) :
    ∃ s, ofParts p.content p.cursor p.selection = .ok s ∧ s.parts = p := by
  let s : State := ⟨p.content, p.cursor, p.selection, h.cursor_le, h.start_le_stop, h.stop_le⟩
  exact ⟨s, ofParts_eq_ok_iff.2 rfl, rfl⟩

/-- Nothing is accepted that breaks a bound. -/
theorem withinBounds_of_ofParts {content : Buffer} {cursor : Nat} {selection : Selection}
    {s : State} (h : ofParts content cursor selection = .ok s) :
    Parts.WithinBounds ⟨content, cursor, selection⟩ := by
  unfold ofParts at h
  split at h
  · cases h
  · split at h
    · cases h
    · split at h
      · cases h
      · exact ⟨Nat.le_of_not_lt ‹_›, Nat.le_of_not_lt ‹_›, Nat.le_of_not_lt ‹_›⟩

/-- Parts are refused if they break a bound, and not otherwise. -/
theorem exists_ofParts_eq_error_iff {content : Buffer} {cursor : Nat} {selection : Selection} :
    (∃ e, ofParts content cursor selection = .error e) ↔
      ¬Parts.WithinBounds ⟨content, cursor, selection⟩ := by
  constructor
  · rintro ⟨e, he⟩ hw
    obtain ⟨s, hs, -⟩ := hw.exists_state
    rw [hs] at he
    cases he
  · intro hw
    cases h : ofParts content cursor selection with
    | ok s => exact absurd (withinBounds_of_ofParts h) hw
    | error e => exact ⟨e, rfl⟩

/-! ## Whether there is a selection -/

theorem hasSelection_eq_true_iff {s : State} :
    s.hasSelection = true ↔ s.selection.start < s.selection.stop := by
  have hle := s.start_le_stop
  unfold hasSelection Selection.isCaret
  rw [Bool.not_eq_true', beq_eq_false_iff_ne]
  omega

theorem hasSelection_eq_false_iff {s : State} :
    s.hasSelection = false ↔ ¬s.selection.start < s.selection.stop := by
  rw [← hasSelection_eq_true_iff, Bool.not_eq_true]

end State
end EditScript
