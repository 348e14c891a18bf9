import Mathlib.Data.List.Induction
import EditScript.Proofs.Command.Run

/-!
# Typing on, and taking back

After text has been put in, the cursor stands behind it with nothing selected. Text that is put in
next goes on from there, and a deletion takes the last character away.

* `Command.exists_insert_meaning`: the range that text is put in place of, whatever the text.
* `State.Parts.exchange_insert`, `State.Parts.exchange_delete`: one more command after an insertion
  comes to an insertion.
* `State.Parts.exchange_deletions`: several deletions, by induction on what they take away.
* `Command.insertions_continue_and_retreat`: what follows for every state.
-/

namespace EditScript

open State (Parts)

namespace State.Parts

variable {p : Parts} {start stop : Nat}

/-- What stands before an offset within the text that was put in. -/
theorem take_exchange (h : start ≤ p.content.length) (text more : Text) :
    (p.exchange start stop (text ++ more)).content.chars.take (start + text.length) =
      p.content.chars.take start ++ text :=
  Buffer.take_splice stop text more h

/-- What stands after the text that was put in. -/
theorem drop_exchange (h : start ≤ p.content.length) (text : Text) :
    (p.exchange start stop text).content.chars.drop (start + text.length) =
      p.content.chars.drop stop :=
  Buffer.drop_splice stop text h

/-- Nothing is selected after text has been put in. -/
theorem exchange_caret (text : Text) : ¬(p.exchange start stop text).selection.start <
    (p.exchange start stop text).selection.stop := Nat.lt_irrefl _

/-- To put text in and then change its end is to put in another text. -/
theorem exchange_exchange (h : start ≤ p.content.length) (stop : Nat) (text gone more : Text) :
    (p.exchange start stop (text ++ gone)).exchange (start + text.length)
      (start + (text ++ gone).length) more = p.exchange start stop (text ++ more) := by
  have htext : p.content.chars.take start ++ text ++ more =
      p.content.chars.take start ++ (text ++ more) := List.append_assoc ..
  have hplace : start + text.length + more.length = start + (text ++ more).length := by
    rw [List.length_append, Nat.add_assoc]
  rw [exchange, take_exchange h, drop_exchange h, htext, hplace]
  rfl

/-- Text that is put in next goes on where the text before it ended. -/
theorem exchange_insert (h : start ≤ p.content.length) (text more : Text) :
    (Command.insert more).meaning (p.exchange start stop text) =
      .ok (p.exchange start stop (text ++ more)) := by
  have hexchange := exchange_exchange h stop text [] more
  rw [List.append_nil] at hexchange
  exact (if_neg (exchange_caret text)).trans (congrArg Except.ok hexchange)

/-- A deletion takes away the last character that was put in. -/
theorem exchange_delete (h : start ≤ p.content.length) (text : Text) (c : Char) :
    Command.delete.meaning (p.exchange start stop (text ++ [c])) =
      .ok (p.exchange start stop text) := by
  have hexchange := exchange_exchange h stop text [c] []
  have hbefore : start + (text ++ [c]).length - 1 = start + text.length := by simp
  have hpos : 0 < start + (text ++ [c]).length := by
    rw [List.length_append, List.length_singleton]
    omega
  rw [List.append_nil, ← hbefore] at hexchange
  exact (if_neg (exchange_caret _)).trans ((if_pos hpos).trans (congrArg Except.ok hexchange))

/-- As many deletions as there are characters at the end of the text take these away. -/
theorem exchange_deletions (h : start ≤ p.content.length) (text gone : Text) :
    Command.meanings (.replicate gone.length .delete) (p.exchange start stop (text ++ gone)) =
      .ok (p.exchange start stop text) := by
  induction gone using List.reverseRecOn with
  | nil =>
    rw [List.append_nil]
    rfl
  | append_singleton gone c ih =>
    rw [List.length_append, List.length_singleton, List.replicate_succ, ← List.append_assoc,
      Command.meanings_cons (exchange_delete h _ c)]
    exact ih

end State.Parts

namespace Command

/-- There is a range that every text is put in place of: what is selected, or else nothing at the
cursor. A deletion of what is selected puts the empty text there. -/
theorem exists_insert_meaning {p : Parts} (h : p.WithinBounds) :
    ∃ start stop, start ≤ p.content.length ∧
      (∀ text, (insert text).meaning p = .ok (p.exchange start stop text)) ∧
      (p.selection.start < p.selection.stop →
        delete.meaning p = .ok (p.exchange start stop [])) ∧
      (¬p.selection.start < p.selection.stop → start = p.cursor ∧ stop = p.cursor) := by
  by_cases hs : p.selection.start < p.selection.stop
  · exact ⟨p.selection.start, p.selection.stop, Nat.le_trans h.start_le_stop h.stop_le,
      fun _ => if_pos hs, fun _ => if_pos hs, absurd hs⟩
  · exact ⟨p.cursor, p.cursor, h.cursor_le, fun _ => if_neg hs, fun hs' => absurd hs' hs,
      fun _ => ⟨rfl, rfl⟩⟩

/-- **Typing on, and taking back.** To put in a text and then another is to put in both at once. To
put in a text and then delete, no more often than it has characters, succeeds at every command and
is to put in the text without as many of its last characters. If all of them are deleted, a state
in which nothing was selected has its content and its cursor back, and a state in which something
was selected is as after a single deletion. -/
theorem insertions_continue_and_retreat (s : State) (text more : Text) (deletions : Nat)
    (h : deletions ≤ text.length) :
    executeAll [insert text, insert more] s = executeAll [insert (text ++ more)] s ∧
      Succeed (insert text :: .replicate deletions delete) s ∧
      executeAll (insert text :: .replicate deletions delete) s =
        executeAll [insert (text.take (text.length - deletions))] s ∧
      (s.selection.start = s.selection.stop →
        let last := executeAll (insert text :: .replicate text.length delete) s
        last.content = s.content ∧ last.cursor = s.cursor) ∧
      (s.selection.start < s.selection.stop →
        executeAll (insert text :: .replicate text.length delete) s = executeAll [delete] s) := by
  obtain ⟨start, stop, hstart, hinsert, hdelete, hcaret⟩ :=
    exists_insert_meaning s.withinBounds_parts
  have hone (t : Text) : meanings [insert t] s.parts =
      .ok (s.parts.exchange start stop t) := by
    rw [meanings_cons (hinsert t)]
    rfl
  have htwo : meanings [insert text, insert more] s.parts =
      .ok (s.parts.exchange start stop (text ++ more)) := by
    rw [meanings_cons (hinsert text),
      meanings_cons (Parts.exchange_insert hstart text more)]
    rfl
  have hback (kept gone : Text) (hsplit : kept ++ gone = text) :
      meanings (insert text :: .replicate gone.length delete) s.parts =
        .ok (s.parts.exchange start stop kept) := by
    rw [← hsplit, meanings_cons (hinsert _)]
    exact Parts.exchange_deletions hstart kept gone
  have hpart := hback _ _ (List.take_append_drop (text.length - deletions) text)
  rw [List.length_drop, Nat.sub_sub_self h] at hpart
  have hall := hback [] text rfl
  refine ⟨executeAll_eq_of_meanings htwo (hone _), (of_meanings_eq_ok hpart).1,
    executeAll_eq_of_meanings hpart (hone _), fun hs => ?_, fun hs => ?_⟩
  · obtain ⟨rfl, rfl⟩ := hcaret (Nat.not_lt.2 (Nat.le_of_eq hs.symm))
    have hparts := (of_meanings_eq_ok hall).2
    have hcontent : (s.parts.exchange s.cursor s.cursor []).content = s.content := by
      show Buffer.mk (s.content.chars.take s.cursor ++ [] ++ s.content.chars.drop s.cursor) = _
      rw [List.append_nil, List.take_append_drop]
    exact ⟨(congrArg Parts.content hparts).trans hcontent, congrArg Parts.cursor hparts⟩
  · have hsingle : meanings [delete] s.parts = .ok (s.parts.exchange start stop []) := by
      rw [meanings_cons (hdelete hs)]
      rfl
    exact executeAll_eq_of_meanings hall hsingle

/-- A text in place of a selection, and one at a cursor that nothing is selected at, deleted again
character by character. -/
theorem typed_text_taken_back :
    let selected : State := ⟨⟨"abcd".toList⟩, 4, ⟨1, 3⟩, by decide, by decide, by decide⟩
    let caret : State := ⟨⟨"abcd".toList⟩, 4, ⟨2, 2⟩, by decide, by decide, by decide⟩
    let text := "é\n\"".toList
    let cs := insert text :: .replicate 3 delete
    3 ≤ text.length ∧
      (selected.selection.start < selected.selection.stop ∧
        executeAll cs selected = executeAll [delete] selected) ∧
      caret.selection.start = caret.selection.stop ∧
        (executeAll cs caret).content = caret.content ∧
        (executeAll cs caret).cursor = caret.cursor := by
  intro selected caret text cs
  have h : 3 ≤ text.length := Nat.le_refl 3
  have hselected : selected.selection.start < selected.selection.stop := by decide
  obtain ⟨-, -, -, -, hdeleted⟩ := insertions_continue_and_retreat selected text [] 3 h
  obtain ⟨-, -, -, hback, -⟩ := insertions_continue_and_retreat caret text [] 3 h
  exact ⟨h, ⟨hselected, hdeleted hselected⟩, rfl, hback rfl⟩

end Command
end EditScript
