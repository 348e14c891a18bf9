import EditScript.Sequence
import EditScript.Proofs.Queue

/-!
# Runs of lines

What the result of `Sequence.run` tells about the lines that it ran.

* `Sequence.run_cons_pending`, `Sequence.run_cons_executed`: one line of a run.
* `Sequence.lines_trace`: the trace has one entry for each pending line, in order, with the id
  and the text of the line. `Sequence.attempted_run` is the same for the ids alone, and
  `Sequence.attempted_pending` for the lines that a queue has pending.
* `Sequence.run_append`, `Sequence.run_filter`: runs one after the other are one run, and lines
  that have been executed are not part of it.
* `Sequence.statesOfLines`, `Sequence.statesOfTrace`: the states that a run goes through, once
  found by attempting the lines and once by folding in the outcomes that the trace holds.
* `Sequence.runs_compose_and_replay`: how runs compose, and that the trace tells all of a run.
-/

namespace EditScript
namespace Sequence

theorem run_cons_executed {l : Line} (h : l.executed = true) (ls : List Line) (s : State) :
    run (l :: ls) s = run ls s := by
  rw [run, if_pos h]

theorem run_cons_pending {l : Line} (h : l.executed = false) (ls : List Line) (s : State) :
    run (l :: ls) s =
      ⟨⟨l.id, l.text, Command.attempt l.text s⟩ ::
          (run ls ((Command.attempt l.text s).applyTo s)).trace,
        (run ls ((Command.attempt l.text s).applyTo s)).final⟩ := by
  rw [run, if_neg (by simp [h])]

/-- **A run attempts the pending lines**, each once, in order and with its text. -/
theorem lines_trace (ls : List Line) (s : State) :
    (run ls s).trace.map (fun e => (e.line, e.text)) =
      (ls.filter fun l => !l.executed).map fun l => (l.id, l.text) := by
  induction ls generalizing s with
  | nil => rfl
  | cons l ls ih =>
    cases h : l.executed with
    | true => simp [run_cons_executed h, h, ih]
    | false => simp [run_cons_pending h, h, ih]

theorem trace_eq_nil_iff {ls : List Line} {s : State} :
    (run ls s).trace = [] ↔ (ls.filter fun l => !l.executed) = [] := by
  rw [← List.map_eq_nil_iff, lines_trace, List.map_eq_nil_iff]

theorem attempted_run (ls : List Line) (s : State) :
    (run ls s).attempted = (ls.filter fun l => !l.executed).map Line.id := by
  have h := congrArg (List.map Prod.fst) (lines_trace ls s)
  rw [List.map_map, List.map_map] at h
  exact h

/-- The pending lines of a queue are all attempted. -/
theorem attempted_pending (q : Queue) (s : State) :
    (run q.pending s).attempted = q.pending.map Line.id := by
  rw [attempted_run, q.filter_pending]

/-! ## Composition -/

/-- **A run of two lists** is a run of the first and then, from the state that it ends in, a run
of the second. -/
theorem run_append (l₁ l₂ : List Line) (s : State) :
    run (l₁ ++ l₂) s =
      ⟨(run l₁ s).trace ++ (run l₂ (run l₁ s).final).trace, (run l₂ (run l₁ s).final).final⟩ := by
  induction l₁ generalizing s with
  | nil => rfl
  | cons l ls ih =>
    rw [List.cons_append]
    cases h : l.executed with
    | true => rw [run_cons_executed h, run_cons_executed h, ih]
    | false => rw [run_cons_pending h, run_cons_pending h, ih]; rfl

/-- A run of the pending lines alone is the whole run. -/
theorem run_filter (ls : List Line) (s : State) :
    run (ls.filter fun l => !l.executed) s = run ls s := by
  induction ls generalizing s with
  | nil => rfl
  | cons l ls ih =>
    cases h : l.executed with
    | true =>
      rw [List.filter_cons_of_neg (by simp [h]), run_cons_executed h, ih]
    | false =>
      rw [List.filter_cons_of_pos (by simp [h]), run_cons_pending h, run_cons_pending h, ih]

/-! ## Replay -/

/-- The states that attempting lines goes through: the first state, and the one after each
line. -/
def statesOfLines (ls : List Line) (s : State) : List State :=
  ls.scanl (fun s l => (Command.attempt l.text s).applyTo s) s

/-- The states that the outcomes in a trace lead through, with no line looked at. -/
def statesOfTrace (trace : List TraceEntry) (s : State) : List State :=
  trace.scanl (fun s e => e.outcome.applyTo s) s

/-- What a run notes about a line that it attempts in a state. -/
def entry (l : Line) (s : State) : TraceEntry := ⟨l.id, l.text, Command.attempt l.text s⟩

theorem statesOfTrace_run (ls : List Line) (s : State) :
    statesOfTrace (run ls s).trace s = statesOfLines (ls.filter fun l => !l.executed) s := by
  induction ls generalizing s with
  | nil => rfl
  | cons l ls ih =>
    cases h : l.executed with
    | true => rw [run_cons_executed h, List.filter_cons_of_neg (by simp [h]), ih]
    | false =>
      rw [run_cons_pending h, List.filter_cons_of_pos (by simp [h]), statesOfTrace, statesOfLines,
        List.scanl_cons, List.scanl_cons]
      exact congrArg (s :: ·) (ih _)

/-- Each entry tells what came of its line in the state that the lines before it led to. -/
theorem trace_run (ls : List Line) (s : State) :
    (run ls s).trace =
      List.zipWith entry (ls.filter fun l => !l.executed)
        (statesOfLines (ls.filter fun l => !l.executed) s) := by
  induction ls generalizing s with
  | nil => rfl
  | cons l ls ih =>
    cases h : l.executed with
    | true => rw [run_cons_executed h, List.filter_cons_of_neg (by simp [h]), ih]
    | false =>
      rw [run_cons_pending h, List.filter_cons_of_pos (by simp [h]), statesOfLines,
        List.scanl_cons, List.zipWith_cons_cons]
      exact congrArg (entry l s :: ·) (ih _)

/-- The outcomes of a trace, folded into the first state, lead to the last one. -/
theorem foldl_trace (ls : List Line) (s : State) :
    (run ls s).trace.foldl (fun s e => e.outcome.applyTo s) s = (run ls s).final := by
  induction ls generalizing s with
  | nil => rfl
  | cons l ls ih =>
    cases h : l.executed with
    | true => rw [run_cons_executed h, ih]
    | false => rw [run_cons_pending h, List.foldl_cons, ih]

/-- An entry tells what came of its line in the state that the outcomes before it lead to. -/
theorem outcome_of_trace_eq {ls : List Line} {s : State} {before after : List TraceEntry}
    {e : TraceEntry} (h : (run ls s).trace = before ++ e :: after) :
    e.outcome = Command.attempt e.text (before.foldl (fun s e => e.outcome.applyTo s) s) := by
  induction ls generalizing s before with
  | nil => simp [run] at h
  | cons l ls ih =>
    cases hex : l.executed with
    | true =>
      rw [run_cons_executed hex] at h
      exact ih h
    | false =>
      rw [run_cons_pending hex] at h
      cases before with
      | nil =>
        obtain ⟨rfl, -⟩ := List.cons.inj h
        rfl
      | cons first before =>
        obtain ⟨rfl, hrest⟩ := List.cons.inj h
        have hlater := ih hrest
        exact hlater

/-- **Runs compose, and a trace is complete.** A run of two lists is the runs of both, one after
the other. Executed lines are no part of a run; each pending line has one entry, in order, with
its id, its text and what came of it in the state reached so far. The outcomes alone lead through
the same states to the last one. -/
theorem runs_compose_and_replay (l₁ l₂ : List Line) (s : State) :
    let first := run l₁ s
    let second := run l₂ first.final
    let pending := l₁.filter fun l => !l.executed
    run (l₁ ++ l₂) s = ⟨first.trace ++ second.trace, second.final⟩ ∧
      run pending s = first ∧
      first.trace.map (fun e => (e.line, e.text)) = pending.map (fun l => (l.id, l.text)) ∧
      first.trace = List.zipWith entry pending (statesOfLines pending s) ∧
      statesOfTrace first.trace s = statesOfLines pending s ∧
      first.trace.foldl (fun s e => e.outcome.applyTo s) s = first.final :=
  ⟨run_append l₁ l₂ s, run_filter l₁ s, lines_trace l₁ s, trace_run l₁ s, statesOfTrace_run l₁ s,
    foldl_trace l₁ s⟩

end Sequence
end EditScript
