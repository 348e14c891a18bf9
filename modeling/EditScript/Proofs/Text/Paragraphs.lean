import EditScript.Proofs.Text.Lines

/-!
# Paragraphs of a text

A line break is a line feed, with or without a carriage return before it. A carriage return at the
end of a line cannot be told from one that belongs to the break, so a line has to end otherwise.

* `Text.Break`: the two line breaks; `Text.Whole`: a line that can stand before either of them.
* `Text.paragraphs_eq`: the paragraphs of a text, said by its lines.
* `Text.paragraphs_append_break`, `Text.paragraphs_of_whole`: reading the first line of a text, and
  a text that is one line.
* `Text.paragraphs_intercalate`: lines that are joined by line breaks are read as they were.
-/

namespace EditScript.Text

/-- A line break. -/
inductive Break : Text → Prop
  | feed : Break ['\n']
  | returnFeed : Break ['\r', '\n']

/-- A line with at least one character, which neither holds a line feed nor ends with a carriage
return. -/
structure Whole (line : Text) : Prop where
  ne_nil : line ≠ []
  no_feed : '\n' ∉ line
  last : line.getLast? ≠ some '\r'

variable {line t final brk last : Text} {front : List Text}

/-- Only the last line is not ended by a line break. -/
theorem paragraphs_eq (h : lines t = front ++ [last]) :
    paragraphs t = front.map dropReturn ++ [last].filter (· ≠ []) := by
  unfold paragraphs
  simp only [h, List.dropLast_concat, List.getLast?_concat, Option.toList_some]

theorem lines_append_feed (h : '\n' ∉ line) (t : Text) :
    lines (line ++ '\n' :: t) = line :: lines t := by
  rw [lines_feed, lines_of_no_feed h]
  rfl

theorem paragraphs_append_feed (h : '\n' ∉ line) (t : Text) :
    paragraphs (line ++ '\n' :: t) = dropReturn line :: paragraphs t := by
  obtain ⟨first, rest, ht⟩ := exists_lines_eq_cons t
  unfold paragraphs
  rw [lines_append_feed h, ht]
  rfl

theorem paragraphs_append_break (hb : Break brk) (h : Whole line) (t : Text) :
    paragraphs (line ++ brk ++ t) = line :: paragraphs t := by
  cases hb with
  | feed =>
    have hdrop : dropReturn line = line := if_neg h.last
    rw [List.append_assoc]
    exact (paragraphs_append_feed h.no_feed t).trans (by rw [hdrop])
  | returnFeed =>
    have hfeed : '\n' ∉ line ++ ['\r'] := by simpa using h.no_feed
    have hdrop : dropReturn (line ++ ['\r']) = line := by simp [dropReturn]
    have heq := paragraphs_append_feed hfeed t
    rw [hdrop, List.append_assoc] at heq
    rwa [List.append_assoc]

theorem paragraphs_of_whole (h : Whole line) : paragraphs line = [line] := by
  unfold paragraphs
  rw [lines_of_no_feed h.no_feed]
  simp [h.ne_nil]

/-- **Lines that are joined by line breaks are read as they were**, whether there is one more break
at the end or not. -/
theorem paragraphs_intercalate (hb : Break brk) (hf : final = [] ∨ Break final) {ls : List Text}
    (hls : ∀ line ∈ ls, Whole line) (hne : ls ≠ []) :
    paragraphs (brk.intercalate ls ++ final) = ls := by
  induction ls with
  | nil => exact absurd rfl hne
  | cons line ls ih =>
    have hline := hls line List.mem_cons_self
    cases ls with
    | nil =>
      rw [List.intercalate_singleton]
      rcases hf with rfl | hf
      · rw [List.append_nil]
        exact paragraphs_of_whole hline
      · have hread := paragraphs_append_break hf hline []
        rwa [List.append_nil] at hread
    | cons next ls =>
      have hrest := ih (fun x hx => hls x (List.mem_cons_of_mem line hx)) (List.cons_ne_nil _ _)
      rw [List.intercalate_cons_cons, List.append_assoc, paragraphs_append_break hb hline, hrest]

end EditScript.Text
