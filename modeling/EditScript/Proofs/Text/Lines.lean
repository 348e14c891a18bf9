import Mathlib.Data.List.Induction
import EditScript.Buffer.Position

/-!
# Lines of a text

A text is its lines with line feeds between them. Where a text is cut in two, one line is cut in
two, and the position of the cut tells which one and where.

* `Text.not_mem_of_mem_lines`, `Text.length_lines`: no line has a line feed, and there is one line
  more than line feeds.
* `Text.lines_append`: the last line of a text and the first line of what follows it are one line.
* `Text.endPosition_eq`: the position that a text ends at, read off its lines.
* `Text.exists_line_at`: the position of an offset is that of a cut through one of the lines.
-/

namespace EditScript.Text

theorem lines_nil : lines [] = [[]] := rfl

theorem lines_cons_break (t : Text) : lines ('\n' :: t) = [] :: lines t := by
  simp [lines, List.splitOn_cons_eq_if_modifyHead]

/-- A character that breaks no line stands at the start of the first one. -/
theorem lines_cons {c : Char} (hc : c ≠ '\n') {t first : Text} {rest : List Text}
    (h : lines t = first :: rest) : lines (c :: t) = (c :: first) :: rest := by
  unfold lines at *
  rw [List.splitOn_cons_eq_if_modifyHead, if_neg (by simpa using hc), h]
  rfl

theorem exists_lines_eq_cons (t : Text) : ∃ first rest, lines t = first :: rest :=
  List.exists_cons_of_ne_nil (lines_ne_nil t)

theorem exists_lines_eq_concat (t : Text) : ∃ front last, lines t = front ++ [last] :=
  ⟨_, _, (List.dropLast_concat_getLast (lines_ne_nil t)).symm⟩

theorem not_mem_of_mem_lines {t line : Text} (h : line ∈ lines t) : '\n' ∉ line := by
  induction t generalizing line with
  | nil =>
    rw [lines_nil, List.mem_singleton] at h
    simp [h]
  | cons c t ih =>
    by_cases hc : c = '\n'
    · rw [hc, lines_cons_break] at h
      rcases List.mem_cons.1 h with rfl | h
      · simp
      · exact ih h
    · obtain ⟨first, rest, ht⟩ := exists_lines_eq_cons t
      rw [lines_cons hc ht] at h
      rcases List.mem_cons.1 h with rfl | h
      · have hfirst := ih (ht ▸ List.mem_cons_self)
        simp [hfirst, Ne.symm hc]
      · exact ih (ht ▸ List.mem_cons_of_mem first h)

theorem lines_of_no_feed {line : Text} (h : '\n' ∉ line) : lines line = [line] :=
  List.splitOnP_eq_singleton fun _ hc => beq_eq_false_iff_ne.2 fun he => h (he ▸ hc)

/-- A line feed parts the lines before it from those after it. -/
theorem lines_feed (t u : Text) : lines (t ++ '\n' :: u) = lines t ++ lines u :=
  List.splitOnP_append_cons t u (beq_self_eq_true '\n')

/-- There is one line more than line feeds. -/
theorem length_lines (t : Text) : (lines t).length = t.count '\n' + 1 := by
  induction t with
  | nil => rfl
  | cons c t ih =>
    by_cases hc : c = '\n'
    · rw [hc, lines_cons_break, List.length_cons, ih, List.count_cons_self]
    · obtain ⟨first, rest, ht⟩ := exists_lines_eq_cons t
      rw [lines_cons hc ht, List.count_cons_of_ne hc, ← ih, ht]
      rfl

/-- A text is known by its lines. -/
theorem lines_injective : Function.Injective lines :=
  Function.LeftInverse.injective unlines_lines

/-- **The line in which two texts meet** is the last line of the one followed by the first line of
the other. -/
theorem lines_append (a b : Text) : ∃ front last first back,
    lines a = front ++ [last] ∧ lines b = first :: back ∧
      lines (a ++ b) = front ++ (last ++ first) :: back := by
  induction a with
  | nil =>
    obtain ⟨first, back, hb⟩ := exists_lines_eq_cons b
    exact ⟨[], [], first, back, rfl, hb, hb⟩
  | cons c a ih =>
    obtain ⟨front, last, first, back, ha, hb, hab⟩ := ih
    by_cases hc : c = '\n'
    · refine ⟨[] :: front, last, first, back, ?_, hb, ?_⟩
      · rw [hc, lines_cons_break, ha]
        rfl
      · rw [hc, List.cons_append, lines_cons_break, hab]
        rfl
    · -- The character joins the first line, which may also be the last.
      cases front with
      | nil => exact ⟨[], c :: last, first, back, lines_cons hc ha, hb, lines_cons hc hab⟩
      | cons line front =>
        exact ⟨(c :: line) :: front, last, first, back, lines_cons hc ha, hb, lines_cons hc hab⟩

/-- What stands after the last line feed is the last line. -/
private theorem takeWhile_reverse {t last : Text} {front : List Text}
    (h : lines t = front ++ [last]) : t.reverse.takeWhile (· ≠ '\n') = last.reverse := by
  induction t using List.reverseRecOn generalizing front last with
  | nil =>
    obtain ⟨-, hlast⟩ := List.append_inj' (show [] ++ [[]] = front ++ [last] from h) rfl
    obtain rfl := (List.cons.inj hlast).1
    rfl
  | append_singleton t c ih =>
    obtain ⟨front', last', first, back, ht, hfirst, happ⟩ := lines_append t [c]
    rw [List.reverse_append, List.reverse_singleton, List.singleton_append]
    rw [happ] at h
    by_cases hc : c = '\n'
    · rw [hc, lines_cons_break, lines_nil] at hfirst
      obtain ⟨rfl, rfl⟩ := List.cons.inj hfirst
      rw [List.append_cons] at h
      obtain ⟨-, hlast⟩ := List.append_inj' h rfl
      obtain rfl := (List.cons.inj hlast).1
      rw [List.takeWhile_cons_of_neg (by simp [hc])]
      rfl
    · rw [lines_cons hc lines_nil] at hfirst
      obtain ⟨rfl, rfl⟩ := List.cons.inj hfirst
      obtain ⟨-, hlast⟩ := List.append_inj' h rfl
      obtain rfl := (List.cons.inj hlast).1
      rw [List.takeWhile_cons_of_pos (by simp [hc]), ih ht, List.reverse_append]
      rfl

/-- The position that a text ends at: the lines before the last one, and the length of that. -/
theorem endPosition_eq {t last : Text} {front : List Text} (h : lines t = front ++ [last]) :
    endPosition t = ⟨front.length, last.length⟩ := by
  have hcount := length_lines t
  rw [h, List.length_append, List.length_singleton] at hcount
  have hline : t.count '\n' = front.length := by omega
  unfold endPosition
  rw [takeWhile_reverse h, hline, List.length_reverse]

/-- **The position of a cut** through a text: it cuts one of the lines, after as many characters as
the column says. -/
theorem exists_line_at (a b : Text) : ∃ before after,
    (lines (a ++ b))[(endPosition a).line]? = some (before ++ after) ∧
      before.length = (endPosition a).column := by
  obtain ⟨front, last, first, back, ha, -, hab⟩ := lines_append a b
  refine ⟨last, first, ?_, ?_⟩
  · rw [endPosition_eq ha, hab]
    simp
  · rw [endPosition_eq ha]

end EditScript.Text
