import Mathlib.Algebra.Order.BigOperators.Group.List
import EditScript.Proofs.Buffer.Position
import EditScript.Proofs.Codec.Outcome
import EditScript.Proofs.Command.Refusal
import EditScript.Proofs.Outcome
import EditScript.Proofs.Sequence
import EditScript.Proofs.Text.Paragraphs
import EditScript.Script

/-!
# How far a run can grow

A line puts in at most as many characters as it has itself: its keyword, the blanks after it and
quotation marks are not put in. So the content never outgrows the text and the script together, and
all offsets that a run tells of are 64-bit as long as these two are small enough.

* `Text.sum_length_paragraphs_le`, `Script.sum_length_lines_le`: the lines of a script are no longer
  than the script.
* `Command.added`, `Command.added_le_of_parse`: the characters that a command puts in.
* `Command.Effect.length_overlay_le`, `Command.Effect.inRange`: what one command does to the length
  of the content, and how large the numbers in its outcome are.
* `Command.length_applyTo_attempt_le`, `Command.inRange_attempt`: the same for a line.
* `Sequence.inRange_run`: the same for a run, by induction on its lines.
-/

namespace EditScript

/-! ## The lines of a script -/

namespace Text

theorem length_dropReturn_le (line : Text) : (dropReturn line).length ≤ line.length := by
  unfold dropReturn
  split
  · rw [List.length_dropLast]
    exact Nat.sub_le _ _
  · exact Nat.le_refl _

/-- The line breaks of a text are in none of its lines. -/
theorem sum_length_paragraphs_le (t : Text) : ((paragraphs t).map List.length).sum ≤ t.length := by
  obtain ⟨front, last, hlines⟩ := exists_lines_eq_concat t
  have hsum := sum_lines t
  rw [hlines, List.map_append, List.sum_append, List.map_singleton, List.sum_singleton] at hsum
  have hfront : ((front.map dropReturn).map List.length).sum ≤
      (front.map fun line => line.length + 1).sum := by
    rw [List.map_map]
    exact List.sum_le_sum fun line _ => Nat.le_succ_of_le (length_dropReturn_le line)
  have hlast : (([last].filter (· ≠ [])).map List.length).sum ≤ last.length := by
    by_cases h : last = [] <;> simp [h]
  rw [paragraphs_eq hlines, List.map_append, List.sum_append]
  omega

end Text

theorem Script.sum_length_lines_le (t : Text) : ((lines t).map List.length).sum ≤ t.length := by
  have hsub : ((lines t).map List.length).Sublist ((Text.paragraphs t).map List.length) :=
    List.filter_sublist.map List.length
  exact Nat.le_trans (hsub.sum_le_sum fun n _ => Nat.zero_le n) (Text.sum_length_paragraphs_le t)

/-! ## One line -/

namespace Command

variable {c : Command} {o : Outcome} {s : State} {line args text : Text}

/-- The number of characters that a command puts in. -/
def added : Command → Nat
  | insert text => text.length
  | _ => 0

theorem Unquoted.length_le (h : Unquoted args text) : text.length ≤ args.length := by
  cases h with
  | quoted t =>
    rw [List.length_append, List.length_cons]
    omega
  | plain => exact Nat.le_refl _

theorem Written.added_le {body : Text} (h : Written body c) : c.added ≤ body.length := by
  cases h with
  | insert _ _ _ hu =>
    have hle := hu.length_le
    rw [List.length_append, List.length_append]
    exact Nat.le_trans hle (Nat.le_add_left _ _)
  | move | select | delete | deleteAnything => exact Nat.zero_le _

/-- **A line puts in at most as many characters as it has.** -/
theorem added_le_of_parse (h : parse line = .ok c) : c.added ≤ line.length :=
  Nat.le_trans (parse_eq_ok_iff.1 h).added_le (Text.length_trim_le line)

theorem Effect.length_overlay_le (h : Effect s c o) :
    (o.overlay s).content.length ≤ s.length + c.added := by
  have hstart := s.start_le_stop
  have hstop := s.stop_le
  have hcursor := s.cursor_le
  unfold State.length
  cases h with
  | moved | moveRefused | selected | selectRefused | deleteRefused => exact Nat.le_add_right _ _
  | @replaced text =>
    show (s.content.splice s.selection.start s.selection.stop text).length ≤ _ + text.length
    rw [Buffer.length_splice text hstart hstop]
    omega
  | @inserted text =>
    show (s.content.splice s.cursor s.cursor text).length ≤ _ + text.length
    rw [Buffer.length_splice text (Nat.le_refl _) hcursor]
    omega
  | deletedSelection =>
    show (s.content.splice s.selection.start s.selection.stop []).length ≤ _ + 0
    rw [Buffer.length_splice [] hstart hstop, List.length_nil]
    omega
  | @deletedCharacter before _ hc =>
    have hbefore : before + 1 ≤ s.content.length := hc ▸ hcursor
    show (s.content.splice before (before + 1) []).length ≤ _ + 0
    rw [Buffer.length_splice [] (Nat.le_succ before) hbefore, List.length_nil]
    omega

/-- The numbers in an error are those of the command and the length of the content. -/
theorem Effect.inRange_error (h : Effect s c o) (hc : c.InRange)
    (hlength : s.length < Text.offsetLimit) : ∀ e ∈ o.error, e.InRange := by
  intro e he
  cases h with
  | moved | selected | replaced | inserted | deletedSelection | deletedCharacter => cases he
  | moveRefused =>
    cases he
    exact ⟨hc, hlength⟩
  | selectRefused =>
    cases he
    exact ⟨hc.1, hc.2, hlength⟩
  | deleteRefused =>
    cases he
    trivial

/-- The numbers in an outcome are bounded: what it carries lies within the content that it leads
to. -/
theorem Effect.inRange (h : Effect s c o) (hc : c.InRange)
    (hsize : s.length + c.added < Text.offsetLimit) : o.InRange where
  command d hd := by
    have hcommand : o.command = some c := by cases h <;> rfl
    cases hcommand.symm.trans hd
    exact hc
  error := h.inRange_error hc (Nat.lt_of_le_of_lt (Nat.le_add_right _ _) hsize)
  cursor n hn := by
    cases hs : o.success with
    | false =>
      obtain ⟨-, hnone, -⟩ := h.carries_nothing hs
      cases hnone.symm.trans hn
    | true =>
      have hw := h.overlay_withinBounds s.withinBounds_parts hs
      have hcursor : (o.overlay s).cursor = n := congrArg (Option.getD · s.cursor) hn
      have hle := hw.cursor_le
      have hlength := h.length_overlay_le
      omega
  selection r hr := by
    cases hs : o.success with
    | false =>
      obtain ⟨-, -, hnone⟩ := h.carries_nothing hs
      cases hnone.symm.trans hr
    | true =>
      have hw := h.overlay_withinBounds s.withinBounds_parts hs
      have hselection : (o.overlay s).selection = r := congrArg (Option.getD · s.selection) hr
      have hstart := hw.start_le_stop
      have hstop := hw.stop_le
      have hlength := h.length_overlay_le
      rw [hselection] at hstart hstop
      exact ⟨by omega, by omega⟩

/-- No error of the reader has a number in it. -/
theorem Refused.inRange {e : CommandError} (h : Refused line e) : e.InRange := by
  cases h <;> trivial

theorem inRange_rejected {e : CommandError} (h : e.InRange) : (Outcome.rejected e).InRange where
  command _ hc := nomatch hc
  error d hd := by
    cases hd
    exact h
  cursor _ hn := nomatch hn
  selection _ hr := nomatch hr

/-- The numbers in the outcome of a line are 64-bit if the content has room for the line. -/
theorem inRange_attempt (hsize : s.length + line.length < Text.offsetLimit) :
    (attempt line s).InRange := by
  rcases attempt_effect line s with ⟨c, hparse, heffect⟩ | ⟨e, hparse, heq⟩
  · have hadded := added_le_of_parse hparse
    have hc : c.InRange := (parse_eq_ok_iff.1 hparse).inRange
    exact heffect.inRange hc (by omega)
  · rw [heq]
    exact inRange_rejected (parse_eq_error_iff.1 hparse).inRange

/-- **A line makes the content longer by no more than its own length.** -/
theorem length_applyTo_attempt_le (line : Text) (s : State) :
    ((attempt line s).applyTo s).length ≤ s.length + line.length := by
  rcases attempt_effect line s with ⟨c, hparse, heffect⟩ | ⟨e, -, heq⟩
  · have hadded := added_le_of_parse hparse
    have hparts := parts_applyTo_attempt line s
    have hlength := heffect.length_overlay_le
    rw [← hparts] at hlength
    exact Nat.le_trans hlength (Nat.add_le_add_left hadded _)
  · rw [heq, Outcome.applyTo_of_not_success rfl]
    exact Nat.le_add_right _ _

end Command

/-! ## Runs -/

/-- The offsets in a state are at most as large as its content is long. -/
theorem State.inRange_of_length {s : State} (h : s.length < Text.offsetLimit) : s.InRange := by
  have hcursor : s.cursor ≤ s.length := s.cursor_le
  have hstop : s.selection.stop ≤ s.length := s.stop_le
  have hstart : s.selection.start ≤ s.length := Nat.le_trans s.start_le_stop hstop
  exact ⟨Nat.lt_of_le_of_lt hcursor h, Nat.lt_of_le_of_lt hstart h, Nat.lt_of_le_of_lt hstop h⟩

namespace Sequence

/-- **All numbers of a run are 64-bit** if the content has room for all of its lines. -/
theorem inRange_run {ls : List Line} {s : State}
    (h : s.length + (ls.map fun l => l.text.length).sum < Text.offsetLimit) :
    (run ls s).final.InRange ∧ ∀ e ∈ (run ls s).trace, e.outcome.InRange := by
  induction ls generalizing s with
  | nil => exact ⟨State.inRange_of_length h, fun _ he => nomatch he⟩
  | cons l ls ih =>
    rw [List.map_cons, List.sum_cons] at h
    cases hex : l.executed with
    | true =>
      rw [run_cons_executed hex]
      exact ih (by omega)
    | false =>
      have hnext := Command.length_applyTo_attempt_le l.text s
      obtain ⟨hfinal, htrace⟩ := ih (s := (Command.attempt l.text s).applyTo s) (by omega)
      rw [run_cons_pending hex]
      refine ⟨hfinal, fun e he => ?_⟩
      rcases List.mem_cons.1 he with rfl | he
      · exact Command.inRange_attempt (by omega)
      · exact htrace e he

end Sequence
end EditScript
