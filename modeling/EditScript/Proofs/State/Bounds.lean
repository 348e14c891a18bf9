import EditScript.Codec.State
import EditScript.Proofs.Outcome
import EditScript.Proofs.Session.Run

/-!
# Bounds along every run

The cursor and the selection of a state lie within its content however the state came about.

* `State.Made`: the states that any sequence of constructions and commands leads to.
* `State.Made.withinBounds`: their bounds, by induction on the sequence.
* `Session.made_performAll`: the live state of a session is among them.
* `State.made_within_bounds_and_accepting`: in these states no command meets an error of the
  buffer, and no outcome of a command is dropped.
-/

namespace EditScript

namespace State

/-- The states that constructions, and commands folded into a state, lead to. -/
inductive Made : State → Prop
  | opened (content : Buffer) : Made (ofBuffer content)
  | assembled {content : Buffer} {cursor : Nat} {selection : Selection} {s : State}
      (h : ofParts content cursor selection = .ok s) : Made s
  | cursorSet {s t : State} {cursor : Nat} (hs : Made s) (h : s.withCursor cursor = .ok t) :
      Made t
  | selectionSet {s t : State} {selection : Selection} (hs : Made s)
      (h : s.withSelection selection = .ok t) : Made t
  | read {v : Json} {s : State} (h : ofJson? v = some (.ok s)) : Made s
  | executed {s : State} (hs : Made s) (c : Command) : Made ((c.execute s).applyTo s)

/-- Whatever gives a state checks its parts. -/
theorem withinBounds_of_eq_ok {content : Buffer} {cursor : Nat} {selection : Selection}
    {s : State} (h : ofParts content cursor selection = .ok s) : s.parts.WithinBounds :=
  ofParts_eq_ok_iff.1 h ▸ withinBounds_of_ofParts h

/-- A state that a document stands for was made of the parts that the document names. -/
theorem exists_ofParts_of_ofJson? {v : Json} {s : State} (h : ofJson? v = some (.ok s)) :
    ∃ content cursor selection, ofParts content cursor selection = .ok s := by
  unfold ofJson? at h
  split at h
  · rename_i content cursor selection _
    obtain ⟨b, -, h⟩ := Option.bind_eq_some_iff.1 h
    obtain ⟨k, -, h⟩ := Option.bind_eq_some_iff.1 h
    obtain ⟨sel, -, h⟩ := Option.bind_eq_some_iff.1 h
    exact ⟨b, k, sel, Option.some.inj h⟩
  · cases h

/-- **The bounds hold after any sequence** of constructions and commands. -/
theorem Made.withinBounds {s : State} (h : s.Made) : s.parts.WithinBounds := by
  induction h with
  | opened content => exact ⟨Nat.zero_le _, Nat.le_refl _, Nat.zero_le _⟩
  | assembled h => exact withinBounds_of_eq_ok h
  | cursorSet _ h => exact withinBounds_of_eq_ok h
  | selectionSet _ h => exact withinBounds_of_eq_ok h
  | read h =>
    obtain ⟨content, cursor, selection, h⟩ := exists_ofParts_of_ofJson? h
    exact withinBounds_of_eq_ok h
  | @executed s _ c ih =>
    cases hs : (c.execute s).success with
    | true =>
      rw [c.parts_applyTo ih hs]
      exact (c.execute_effect s).overlay_withinBounds ih hs
    | false => rw [Outcome.applyTo_of_not_success hs]; exact ih

/-- Running a line leads from one of these states to another. -/
theorem Made.attempted {s : State} (h : s.Made) (line : Text) :
    ((Command.attempt line s).applyTo s).Made := by
  rcases Command.attempt_cases line s with ⟨c, hc⟩ | hs
  · rw [hc]
    exact h.executed c
  · rw [hs]
    exact h

theorem Made.run {s : State} (h : s.Made) (ls : List Line) : (Sequence.run ls s).final.Made := by
  induction ls generalizing s with
  | nil => exact h
  | cons l ls ih =>
    rw [Sequence.run]
    split
    · exact ih h
    · exact ih (h.attempted l.text)

end State

namespace Session

/-- A state that the host puts into a session was made of its own parts. -/
theorem Effect.made {s : Session} {op : Operation} {step : Step Answer} (he : Effect s op step)
    (h : s.state.Made) : step.session.state.Made := by
  cases he with
  | setState state => exact .assembled state.ofParts_self
  | setCursor hc => exact h.cursorSet hc
  | setSelection hs => exact h.selectionSet hs
  | executeLine _ ho => exact ho ▸ h.attempted _
  | executeText ho => exact ho ▸ h.attempted _
  | runPending _ hr => exact hr ▸ h.run _
  | cursorRefused | selectionRefused | enqueue | editLine | replaceLine | lineNotFound
  | nothingPending | recordInstruction | acceptReply | recordAssistFailure => exact h

theorem made_performAll (content : Buffer) (settings : Settings) (ops : List Operation) :
    ((start content settings).performAll ops).session.state.Made :=
  performAll_keeps (P := fun s => s.state.Made) (fun s op h => (perform_effect s op).made h)
    (.opened content) ops

end Session

namespace State

/-- **Bounds hold, and nothing is dropped.** In every state that constructions and commands lead
to, and in every live state of a session, the bounds hold. There no command reports an error of
the buffer. The parts of an outcome that succeeds are within bounds together with the parts that
it leaves alone, so the next state consists of exactly these; an outcome that fails changes
nothing. -/
theorem made_within_bounds_and_accepting (s : State)
    (h : s.Made ∨ ∃ content settings ops,
      s = ((Session.start content settings).performAll ops).session.state) :
    s.parts.WithinBounds ∧ ∀ c : Command,
      let o := c.execute s
      (∀ e, o.error ≠ some (.buffer e)) ∧
      (o.success = true →
        ofParts (o.content.getD s.content) (o.cursor.getD s.cursor)
          (o.selection.getD s.selection) = .ok (o.applyTo s) ∧
        (o.applyTo s).content = o.content.getD s.content ∧
        (o.applyTo s).cursor = o.cursor.getD s.cursor ∧
        (o.applyTo s).selection = o.selection.getD s.selection) ∧
      (o.success = false → o.applyTo s = s) := by
  have hmade : s.Made := by
    rcases h with h | ⟨content, settings, ops, rfl⟩
    · exact h
    · exact Session.made_performAll content settings ops
  have hw := hmade.withinBounds
  refine ⟨hw, fun c => ⟨(c.execute_effect s).error_ne_buffer, fun hs => ?_,
    Outcome.applyTo_of_not_success⟩⟩
  have hparts := c.parts_applyTo hw hs
  refine ⟨ofParts_eq_ok_iff.2 hparts, ?_⟩
  injection hparts with h₁ h₂ h₃
  exact ⟨h₁, h₂, h₃⟩

/-- An empty text put in place of everything: the cursor, which stood within the selection, goes
where the content now ends. -/
theorem within_bounds_after_emptying :
    let s : State := ⟨⟨['a', 'b']⟩, 1, ⟨0, 2⟩, by decide, by decide, by decide⟩
    s.Made ∧ s.parts.WithinBounds ∧
      (((Command.insert []).execute s).applyTo s).parts = ⟨⟨[]⟩, 0, .caret 0⟩ := by
  intro s
  let moved : State := ⟨⟨['a', 'b']⟩, 1, .caret 1, by decide, by decide, by decide⟩
  have hcursor : (ofBuffer ⟨['a', 'b']⟩).withCursor 1 = .ok moved := rfl
  have hselection : moved.withSelection ⟨0, 2⟩ = .ok s := rfl
  have hmade : s.Made := .selectionSet (.cursorSet (.opened ⟨['a', 'b']⟩) hcursor) hselection
  obtain ⟨hw, haccepting⟩ := made_within_bounds_and_accepting s (.inl hmade)
  obtain ⟨-, hsuccess, -⟩ := haccepting (.insert [])
  obtain ⟨-, hcontent, hcursor, hselection⟩ := hsuccess rfl
  exact ⟨hmade, hw, Parts.ext hcontent hcursor hselection⟩

end State
end EditScript
