import EditScript.Proofs.Command.Refusal
import EditScript.Proofs.Script
import EditScript.Proofs.Text.Paragraphs

/-!
# Command lines of a reply

What a reply gives can be joined and read again, and a reply can be read in pieces. Carriage returns
and missing line breaks make no difference: a carriage return is a blank, and blank lines are left
out. So the command lines of a reply are those between its line feeds, trimmed.

* `Script.Tidy`: a line that stands for itself.
* `Script.bodies`, `Script.ofReply_eq_bodies`: the trimmed lines between line feeds, and which of
  them a reply gives.
* `Script.bodies_append`, `Script.bodies_unlines`: reading in pieces, and reading tidy lines again.
* `Script.replies_stable_and_like_scripts`: what holds of every reply, and how a script file with
  the same text is read.
-/

namespace EditScript

/-- The carriage return at the end of a line is one of its blanks. -/
theorem Text.trim_dropReturn (line : Text) : trim (dropReturn line) = trim line := by
  unfold dropReturn
  split
  · rename_i hlast
    obtain ⟨front, rfl⟩ := List.getLast?_eq_some_iff.1 hlast
    rw [List.dropLast_concat]
    exact (trim_append_blank front (blank_singleton rfl)).symm
  · rfl

namespace Script

variable {line t : Text}

/-- The line has at least one character, no blank at either end, and no line feed. -/
structure Tidy (line : Text) : Prop where
  ne_nil : line ≠ []
  bare : Text.Bare line
  no_feed : '\n' ∉ line

/-- A tidy line is not refused for being blank. -/
theorem Tidy.parse_ne (h : Tidy line) (reason : Text) :
    Command.parse line ≠ .error (.invalidFormat reason) := by
  intro hparse
  cases Command.parse_eq_error_iff.1 hparse with
  | blank hblank =>
    have htrim := Text.trim_eq_nil_iff.2 (Text.trimStart_eq_nil_iff.2 hblank)
    rw [Text.trim_of_bare h.bare] at htrim
    exact h.ne_nil htrim

/-! ## Trimmed lines -/

/-- The lines between the line feeds of a text, trimmed, without those that are blank. -/
def bodies (t : Text) : List Text := ((Text.lines t).map Text.trim).filter fun line => line ≠ []

/-- What is done about carriage returns and about an empty last line is not seen after trimming. -/
theorem filter_paragraphs (t : Text) :
    ((Text.paragraphs t).map Text.trim).filter (fun line => line ≠ []) = bodies t := by
  obtain ⟨front, last, hlines⟩ := Text.exists_lines_eq_concat t
  have hfront : (front.map Text.dropReturn).map Text.trim = front.map Text.trim := by
    rw [List.map_map]
    exact List.map_congr_left fun line _ => Text.trim_dropReturn line
  unfold bodies
  rw [Text.paragraphs_eq hlines, hlines, List.map_append, List.map_append, hfront,
    List.filter_append, List.filter_append]
  cases last <;> rfl

theorem ofReply_eq_bodies (strip : Bool) (t : Text) :
    ofReply strip t = (bodies t).filter fun line => !(strip && isFence line) := by
  unfold ofReply
  rw [← filter_paragraphs, List.filter_filter]
  exact List.filter_congr fun line _ => Bool.and_comm _ _

theorem tidy_of_mem_bodies (h : line ∈ bodies t) : Tidy line := by
  obtain ⟨hmem, hne⟩ := List.mem_filter.1 h
  obtain ⟨whole, hwhole, rfl⟩ := List.mem_map.1 hmem
  exact ⟨of_decide_eq_true hne, Text.bare_trim whole,
    fun hfeed => Text.not_mem_of_mem_lines hwhole (Text.mem_of_mem_trim hfeed)⟩

theorem bodies_append (t u : Text) : bodies (t ++ '\n' :: u) = bodies t ++ bodies u := by
  unfold bodies
  rw [Text.lines_feed, List.map_append, List.filter_append]

theorem Tidy.bodies_eq (h : Tidy line) : bodies line = [line] := by
  unfold bodies
  rw [Text.lines_of_no_feed h.no_feed, List.map_singleton, Text.trim_of_bare h.bare]
  exact List.filter_cons_of_pos (decide_eq_true h.ne_nil)

/-- **Tidy lines are read as they were joined.** -/
theorem bodies_unlines {ls : List Text} (h : ∀ line ∈ ls, Tidy line) :
    bodies (Text.unlines ls) = ls := by
  induction ls with
  | nil => rfl
  | cons line ls ih =>
    obtain ⟨hline, hls⟩ := List.forall_mem_cons.1 h
    cases ls with
    | nil => exact (congrArg bodies List.intercalate_singleton).trans hline.bodies_eq
    | cons next ls =>
      have hjoin : Text.unlines (line :: next :: ls) =
          line ++ '\n' :: Text.unlines (next :: ls) := by
        unfold Text.unlines
        rw [List.intercalate_cons_cons, List.append_assoc]
        rfl
      rw [hjoin, bodies_append, hline.bodies_eq, ih hls]
      rfl

/-! ## Replies -/

theorem isFence_eq (line : Text) : isFence line = decide (fence <+: line) :=
  Bool.eq_iff_iff.2 (List.isPrefixOf_iff_prefix.trans decide_eq_true_iff.symm)

theorem tidy_of_mem_ofReply {strip : Bool} (h : line ∈ ofReply strip t) : Tidy line := by
  rw [ofReply_eq_bodies] at h
  exact tidy_of_mem_bodies (List.mem_filter.1 h).1

/-- What a reply gives is given again. -/
theorem ofReply_unlines (strip : Bool) (t : Text) :
    ofReply strip (Text.unlines (ofReply strip t)) = ofReply strip t := by
  rw [ofReply_eq_bodies, bodies_unlines fun _ => tidy_of_mem_ofReply, ofReply_eq_bodies,
    List.filter_filter]
  exact List.filter_congr fun line _ => Bool.and_self _

theorem ofReply_append (strip : Bool) (t u : Text) :
    ofReply strip (t ++ '\n' :: u) = ofReply strip t ++ ofReply strip u := by
  simp only [ofReply_eq_bodies, bodies_append, List.filter_append]

/-- **Replies are read stably, in pieces, and like scripts.** Every line that a reply gives is tidy,
so that no parser refuses it for its format. Joined by line feeds, these lines are given again. The
lines of two texts with a line feed between them are those of the one and then those of the other.
If fences are stripped, the lines are those that do not start with a fence. A script file with the
same text has the same lines, but for comments, for fences and for the blanks around the lines, and
those do not matter to the parser. -/
theorem replies_stable_and_like_scripts (strip : Bool) (t t₁ t₂ : Text) :
    (∀ line ∈ ofReply strip t,
      Tidy line ∧ ∀ reason, Command.parse line ≠ .error (.invalidFormat reason)) ∧
      ofReply strip (Text.unlines (ofReply strip t)) = ofReply strip t ∧
      ofReply strip (t₁ ++ '\n' :: t₂) = ofReply strip t₁ ++ ofReply strip t₂ ∧
      ofReply true t = (ofReply false t).filter (fun line => ¬fence <+: line) ∧
      (lines t).map Text.trim = (ofReply false t).filter (fun line => line.head? ≠ some '#') ∧
      ∀ line ∈ lines t, Command.parse line = Command.parse (Text.trim line) := by
  refine ⟨fun line h => ?_, ofReply_unlines strip t, ofReply_append strip t₁ t₂, ?_,
    map_trim_lines t, fun line _ => (Command.parse_trim line).symm⟩
  · have htidy : Tidy line := tidy_of_mem_ofReply h
    exact ⟨htidy, htidy.parse_ne⟩
  · rw [ofReply_eq_filter]
    exact List.filter_congr fun line _ => by rw [Bool.true_and, isFence_eq, decide_not]

/-- Carriage returns and blank lines on both sides of the seam. -/
example : ofReply true ("MOVE 0\r".toList ++ '\n' :: "\r\n\x0b DELETE\r".toList) =
    ["MOVE 0".toList, "DELETE".toList] := by
  decide

end Script
end EditScript
