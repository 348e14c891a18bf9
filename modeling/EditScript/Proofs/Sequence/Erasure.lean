import Mathlib.Data.Finset.Basic
import EditScript.Proofs.Outcome
import EditScript.Proofs.Sequence

/-!
# Lines that fail can be left out

A line that fails hands the state on as it found it. So the lines after it do not notice whether it
was there.

* `Sequence.labelled`: the trace of a run in which each line has a label, each entry with the label
  of its line. Two lines may have the same id and text, and one of them may fail where the other
  succeeds; their labels tell them apart.
* `Sequence.run_filter_label`: the run of the lines whose labels are kept, if every line that is
  left out failed.
* `Sequence.without`, `Sequence.failed_lines_erasable`: the labels are the positions in the list,
  and any of those may be left out where a line failed.
-/

namespace EditScript
namespace Sequence

variable {α : Type}

/-- The trace of a run of labelled lines, each entry with the label of its line. -/
def labelled (ls : List (Line × α)) (s : State) : List (α × TraceEntry) :=
  ((ls.filter fun p => !p.1.executed).map Prod.snd).zip (run (ls.map Prod.fst) s).trace

theorem labelled_cons_executed {l : Line} (h : l.executed = true) (a : α) (ls : List (Line × α))
    (s : State) : labelled ((l, a) :: ls) s = labelled ls s := by
  unfold labelled
  rw [List.filter_cons_of_neg (by simp [h]), List.map_cons, run_cons_executed h]

theorem labelled_cons_pending {l : Line} (h : l.executed = false) (a : α) (ls : List (Line × α))
    (s : State) :
    labelled ((l, a) :: ls) s =
      (a, entry l s) :: labelled ls ((Command.attempt l.text s).applyTo s) := by
  unfold labelled
  rw [List.filter_cons_of_pos (by simp [h]), List.map_cons, List.map_cons, run_cons_pending h,
    List.zip_cons_cons]
  rfl

/-- No entry is lost when labels are put to them. -/
theorem map_snd_labelled (ls : List (Line × α)) (s : State) :
    (labelled ls s).map Prod.snd = (run (ls.map Prod.fst) s).trace := by
  induction ls generalizing s with
  | nil => rfl
  | cons p ls ih =>
    obtain ⟨l, a⟩ := p
    cases h : l.executed with
    | true => rw [labelled_cons_executed h, ih, List.map_cons, run_cons_executed h]
    | false =>
      rw [labelled_cons_pending h, List.map_cons, ih, List.map_cons, run_cons_pending h]
      rfl

/-- **Lines that fail can be left out.** If every entry whose label is not kept failed, the lines
with the labels that are kept end in the same state, with the entries that have these labels. -/
theorem run_filter_label (kept : α → Bool) (ls : List (Line × α)) (s : State)
    (h : ∀ p ∈ labelled ls s, kept p.1 = false → p.2.outcome.success = false) :
    run ((ls.filter fun p => kept p.2).map Prod.fst) s =
      ⟨((labelled ls s).filter fun p => kept p.1).map Prod.snd,
        (run (ls.map Prod.fst) s).final⟩ := by
  induction ls generalizing s with
  | nil => rfl
  | cons p ls ih =>
    obtain ⟨l, a⟩ := p
    cases hex : l.executed with
    | true =>
      rw [labelled_cons_executed hex] at h
      rw [labelled_cons_executed hex, List.map_cons, run_cons_executed hex, ← ih s h]
      cases ha : kept a with
      | true => simp only [List.filter_cons, ha, ↓reduceIte, List.map_cons, run_cons_executed hex]
      | false => simp only [List.filter_cons, ha, Bool.false_eq_true, ↓reduceIte]
    | false =>
      rw [labelled_cons_pending hex] at h
      have hrest := ih ((Command.attempt l.text s).applyTo s)
        fun p hp => h p (List.mem_cons_of_mem _ hp)
      rw [labelled_cons_pending hex, List.map_cons, run_cons_pending hex]
      cases ha : kept a with
      | true =>
        simp only [List.filter_cons, ha, ↓reduceIte, List.map_cons, run_cons_pending hex, hrest]
        rfl
      | false =>
        -- The line is left out, and so it failed: the next line finds the same state.
        have hfailed := h _ List.mem_cons_self ha
        have hstate : (Command.attempt l.text s).applyTo s = s :=
          Outcome.applyTo_of_not_success hfailed
        rw [hstate] at hrest
        simp only [List.filter_cons, ha, Bool.false_eq_true, ↓reduceIte, hstate]
        exact hrest

/-- The lines of a list without those at some positions. -/
def without (removed : Finset Nat) (ls : List Line) : List Line :=
  (ls.zipIdx.filter fun p => p.2 ∉ removed).map Prod.fst

/-- **Lines that fail can be erased.** The entries of a trace are labelled with the positions of
their lines. If lines are taken out of a list, and each of them failed, then the run ends in the
same state, and its trace has the other entries as they were. -/
theorem failed_lines_erasable (ls : List Line) (s : State) (removed : Finset Nat)
    (h : ∀ p ∈ labelled ls.zipIdx s, p.1 ∈ removed → p.2.outcome.success = false) :
    let before := run ls s
    let after := run (without removed ls) s
    after.final = before.final ∧
      before.trace = (labelled ls.zipIdx s).map Prod.snd ∧
      after.trace = ((labelled ls.zipIdx s).filter fun p => p.1 ∉ removed).map Prod.snd := by
  intro before after
  have hlines : ls.zipIdx.map Prod.fst = ls := List.zipIdx_map_fst 0 ls
  have hrun := run_filter_label (fun i => decide (i ∉ removed)) ls.zipIdx s fun p hp hr =>
    h p hp (by simpa using hr)
  have htrace := map_snd_labelled ls.zipIdx s
  rw [hlines] at hrun htrace
  have hafter : after = _ := hrun
  rw [hafter]
  exact ⟨rfl, htrace.symm, rfl⟩

/-- Of three lines with one text, two fail, and the one between them does not. -/
theorem failed_deletions_erased :
    let delete := "DELETE".toList
    let ls := [Line.fresh 0 delete, .fresh 1 "jump".toList, .fresh 2 "INSERT a".toList,
      .fresh 3 delete, .fresh 4 delete]
    let s := State.ofBuffer ⟨[]⟩
    let removed : Finset Nat := {0, 1, 4}
    (∀ p ∈ labelled ls.zipIdx s, p.1 ∈ removed → p.2.outcome.success = false) ∧
      without removed ls = [.fresh 2 "INSERT a".toList, .fresh 3 delete] ∧
      (run (without removed ls) s).final = (run ls s).final := by
  intro delete ls s removed
  have h : ∀ p ∈ labelled ls.zipIdx s, p.1 ∈ removed → p.2.outcome.success = false := by
    decide
  obtain ⟨hfinal, -, -⟩ := failed_lines_erasable ls s removed h
  exact ⟨h, by decide, hfinal⟩

end Sequence
end EditScript
