import Mathlib.Algebra.Ring.Nat
import Mathlib.Data.Set.Function
import EditScript.Proofs.Buffer.Edit
import EditScript.Proofs.Text.Lines

/-!
# Offsets and positions

The offsets of a buffer and the positions in its lines correspond one to one, and in the same order.

* `Position.Before`, `Position.advance`: reading order, and the next position in it.
* `Text.endPosition_concat`: the position that a text ends at moves on with each character.
* `Buffer.Holds`, `Buffer.offset`: the positions in a buffer, and the offset of a position, which is
  counted from where its line starts (`Buffer.lineStart`).
* `Buffer.holds_endPosition`, `Buffer.offset_endPosition`: from an offset to its position and back.
* `Buffer.offset_lt_offset`: later positions have larger offsets, so that different positions have
  different ones.
* `Buffer.position_eq_ok_iff`: a position has the offset that has this position.
* `Buffer.positions_correspond`: what this means for all offsets and positions of a buffer.
-/

namespace EditScript

namespace Position

/-- The position comes earlier in reading order. -/
def Before (p q : Position) : Prop := p.line < q.line ∨ p.line = q.line ∧ p.column < q.column

/-- The position after one more character. -/
def advance (p : Position) (c : Char) : Position :=
  if c = '\n' then ⟨p.line + 1, 0⟩ else ⟨p.line, p.column + 1⟩

theorem before_or_eq_or_before (p q : Position) : p.Before q ∨ p = q ∨ q.Before p := by
  cases p
  cases q
  simp only [Before, Position.mk.injEq]
  omega

end Position

namespace Text

/-- The position that a text ends at moves on with each character. -/
theorem endPosition_concat (t : Text) (c : Char) :
    endPosition (t ++ [c]) = (endPosition t).advance c := by
  unfold endPosition Position.advance
  rw [List.count_append, List.reverse_append, List.reverse_singleton, List.singleton_append]
  by_cases hc : c = '\n'
  · simp [hc]
  · simp [hc]

/-- The lengths of the lines, each with a line feed: the last line has none in the text. -/
theorem sum_lines (t : Text) : ((lines t).map fun line => line.length + 1).sum = t.length + 1 := by
  induction t with
  | nil => rfl
  | cons c t ih =>
    by_cases hc : c = '\n'
    · rw [hc, lines_cons_break, List.map_cons, List.sum_cons, ih, List.length_nil,
        List.length_cons]
      omega
    · obtain ⟨first, rest, ht⟩ := exists_lines_eq_cons t
      rw [ht, List.map_cons, List.sum_cons] at ih
      rw [lines_cons hc ht, List.map_cons, List.sum_cons, List.length_cons, List.length_cons]
      omega

end Text

namespace Buffer

variable {b : Buffer} {p q : Position} {index m n : Nat}

/-- The position is one in the buffer: there is its line, and its column is at most as large as that
line is long. -/
def Holds (b : Buffer) (p : Position) : Prop :=
  p.line < b.lineCount ∧ p.column ≤ (b.lines.getD p.line []).length

instance (b : Buffer) : DecidablePred b.Holds := fun p =>
  inferInstanceAs (Decidable (p.line < b.lineCount ∧ p.column ≤ (b.lines.getD p.line []).length))

/-- The number of characters before a line: the lines before it with their line feeds. -/
def lineStart (b : Buffer) (line : Nat) : Nat :=
  ((b.lines.take line).map fun line => line.length + 1).sum

/-- The number of characters before a position. -/
def offset (b : Buffer) (p : Position) : Nat := b.lineStart p.line + p.column

theorem length_lines (b : Buffer) : b.lines.length = b.lineCount := Text.length_lines b.chars

/-! ## Where lines start -/

theorem lineStart_add_le (n k : Nat) : b.lineStart n ≤ b.lineStart (n + k) := by
  unfold lineStart
  rw [List.take_add, List.map_append, List.sum_append]
  exact Nat.le_add_right _ _

theorem lineStart_mono (h : m ≤ n) : b.lineStart m ≤ b.lineStart n := by
  obtain ⟨k, rfl⟩ := Nat.exists_eq_add_of_le h
  exact lineStart_add_le m k

/-- A line starts after the line before it and its line feed. -/
theorem lineStart_succ (h : n < b.lineCount) :
    b.lineStart (n + 1) = b.lineStart n + (b.lines.getD n []).length + 1 := by
  rw [← b.length_lines] at h
  unfold lineStart
  rw [List.take_succ_eq_append_getElem h, List.map_append, List.sum_append]
  simp [h, Nat.add_assoc]

/-- One more line would start behind one more line feed at the end. -/
theorem lineStart_lineCount (b : Buffer) : b.lineStart b.lineCount = b.length + 1 := by
  unfold lineStart
  rw [← b.length_lines, List.take_length]
  exact Text.sum_lines b.chars

/-! ## The offset of a position -/

/-- A position lies before the next line. -/
theorem Holds.offset_lt (h : b.Holds p) : b.offset p < b.lineStart (p.line + 1) := by
  obtain ⟨hline, hcolumn⟩ := h
  rw [lineStart_succ hline]
  unfold offset
  omega

theorem Holds.offset_le_length (h : b.Holds p) : b.offset p ≤ b.length := by
  have hlt := h.offset_lt
  have hmono : b.lineStart (p.line + 1) ≤ b.lineStart b.lineCount := lineStart_mono h.1
  rw [lineStart_lineCount] at hmono
  omega

/-- **Later positions have larger offsets.** -/
theorem Holds.offset_lt_offset (h : b.Holds p) (hbefore : p.Before q) :
    b.offset p < b.offset q := by
  rcases hbefore with hline | ⟨hline, hcolumn⟩
  · have hlt := h.offset_lt
    have hmono : b.lineStart (p.line + 1) ≤ b.lineStart q.line := lineStart_mono hline
    unfold offset at *
    omega
  · unfold offset
    rw [hline]
    omega

/-- Different positions have different offsets. -/
theorem Holds.eq_of_offset_eq (hp : b.Holds p) (hq : b.Holds q) (h : b.offset p = b.offset q) :
    p = q := by
  rcases p.before_or_eq_or_before q with hlt | heq | hgt
  · exact absurd h (Nat.ne_of_lt (hp.offset_lt_offset hlt))
  · exact heq
  · exact absurd h (Nat.ne_of_gt (hq.offset_lt_offset hgt))

/-! ## The position of an offset -/

theorem holds_endPosition (b : Buffer) (index : Nat) :
    b.Holds (Text.endPosition (b.chars.take index)) := by
  obtain ⟨before, after, hline, hcolumn⟩ :=
    Text.exists_line_at (b.chars.take index) (b.chars.drop index)
  rw [List.take_append_drop] at hline
  have hline : b.lines[(Text.endPosition (b.chars.take index)).line]? = some (before ++ after) :=
    hline
  constructor
  · rw [← b.length_lines]
    exact (List.getElem?_eq_some_iff.1 hline).1
  · rw [← hcolumn, List.getD_eq_getElem?_getD, hline, Option.getD_some, List.length_append]
    exact Nat.le_add_right _ _

/-- The lines before an offset, and what stands before it in its own line, are all that is before
it; so they add up to it. -/
theorem offset_endPosition (h : index ≤ b.length) :
    b.offset (Text.endPosition (b.chars.take index)) = index := by
  obtain ⟨front, before, after, back, hfront, -, hlines⟩ :=
    Text.lines_append (b.chars.take index) (b.chars.drop index)
  rw [List.take_append_drop] at hlines
  have hlines : b.lines = front ++ (before ++ after) :: back := hlines
  have hsum := Text.sum_lines (b.chars.take index)
  rw [hfront, List.length_take_of_le h, List.map_append, List.sum_append] at hsum
  rw [Text.endPosition_eq hfront]
  unfold offset lineStart
  rw [hlines, List.take_left' rfl]
  simp only [List.map_cons, List.map_nil, List.sum_cons, List.sum_nil] at hsum
  show _ + before.length = index
  omega

theorem position_eq_ok (h : index ≤ b.length) :
    b.position index = .ok (Text.endPosition (b.chars.take index)) := by
  unfold position
  rw [checkIndex_eq_ok h]
  rfl

theorem position_eq_error (h : b.length < index) :
    b.position index = .error (.invalidIndex index b.length) := by
  unfold position checkIndex
  rw [if_pos h]
  rfl

/-- **A position has the offset that has this position.** -/
theorem position_eq_ok_iff : b.position index = .ok p ↔ b.Holds p ∧ b.offset p = index := by
  constructor
  · intro h
    rcases Nat.lt_or_ge b.length index with hlt | hle
    · rw [position_eq_error hlt] at h
      cases h
    · rw [position_eq_ok hle] at h
      cases h
      exact ⟨b.holds_endPosition index, offset_endPosition hle⟩
  · rintro ⟨hp, rfl⟩
    have hle := hp.offset_le_length
    have hsame := offset_endPosition hle
    rw [position_eq_ok hle, (b.holds_endPosition _).eq_of_offset_eq hp hsame]

/-- The position moves on with each character. -/
theorem position_succ {c : Char} (h : b.chars[index]? = some c) :
    b.position (index + 1) = (b.position index).map (·.advance c) := by
  obtain ⟨hlt, hc⟩ := List.getElem?_eq_some_iff.1 h
  have htake : b.chars.take (index + 1) = b.chars.take index ++ [c] := by
    rw [List.take_succ_eq_append_getElem hlt, hc]
  rw [position_eq_ok hlt, position_eq_ok (Nat.le_of_lt hlt), htake, Text.endPosition_concat]
  rfl

/-- **Offsets are in reading order.** -/
theorem lt_iff_before (hm : b.position m = .ok p) (hn : b.position n = .ok q) :
    m < n ↔ p.Before q := by
  obtain ⟨hp, rfl⟩ := position_eq_ok_iff.1 hm
  obtain ⟨hq, rfl⟩ := position_eq_ok_iff.1 hn
  constructor
  · intro hlt
    rcases p.before_or_eq_or_before q with h | rfl | h
    · exact h
    · exact absurd hlt (Nat.lt_irrefl _)
    · exact absurd hlt (Nat.lt_asymm (hq.offset_lt_offset h))
  · exact hp.offset_lt_offset

/-- **Offsets and positions correspond one to one.** There are as many lines as are counted, none
has a line feed, and joined by line feeds they are the text. An offset has a position if and only if
it is not beyond the end; otherwise it is refused. Its position is one in the buffer, it is the
offset of that position, and each position in the buffer is met in this way. An offset is smaller
than another if and only if its position comes earlier in reading order: a line feed leads to the
start of the next line, and every other character to the next column. -/
theorem positions_correspond (b : Buffer) :
    b.lines.length = b.lineCount ∧ (∀ line ∈ b.lines, '\n' ∉ line) ∧
    Text.unlines b.lines = b.chars ∧
    (∀ index, (∃ p, b.position index = .ok p) ↔ index ≤ b.length) ∧
    (∀ index, b.length < index → b.position index = .error (.invalidIndex index b.length)) ∧
    (∀ index p, b.position index = .ok p ↔ b.Holds p ∧ b.offset p = index) ∧
    Set.BijOn b.offset {p | b.Holds p} {index | index ≤ b.length} ∧
    (∀ m n p q, b.position m = .ok p → b.position n = .ok q → (m < n ↔ p.Before q)) ∧
    b.position 0 = .ok ⟨0, 0⟩ ∧
    ∀ index c, b.chars[index]? = some c →
      b.position (index + 1) = (b.position index).map (·.advance c) := by
  have hdefined : ∀ index, (∃ p, b.position index = .ok p) ↔ index ≤ b.length := by
    intro index
    constructor
    · rintro ⟨p, h⟩
      obtain ⟨hp, rfl⟩ := position_eq_ok_iff.1 h
      exact hp.offset_le_length
    · exact fun h => ⟨_, position_eq_ok h⟩
  have hbijection : Set.BijOn b.offset {p | b.Holds p} {index | index ≤ b.length} := by
    refine ⟨fun p hp => hp.offset_le_length, fun p hp q hq => hp.eq_of_offset_eq hq, ?_⟩
    exact fun index h => ⟨_, b.holds_endPosition index, offset_endPosition h⟩
  exact ⟨b.length_lines, fun line => Text.not_mem_of_mem_lines, Text.unlines_lines b.chars,
    hdefined, fun index => position_eq_error, fun index p => position_eq_ok_iff, hbijection,
    fun m n p q => lt_iff_before, rfl, fun index c => position_succ⟩

/-- A text that starts with empty lines and ends with one. -/
theorem empty_lines_have_positions :
    let b : Buffer := ⟨"\n\nab\n".toList⟩
    b.position 1 = .ok ⟨1, 0⟩ ∧ b.position 5 = .ok ⟨3, 0⟩ ∧ Position.Before ⟨1, 0⟩ ⟨3, 0⟩ ∧
      5 < 6 ∧ b.position 6 = .error (.invalidIndex 6 5) := by
  intro b
  obtain ⟨-, -, -, -, hbeyond, hposition, -, horder, -⟩ := positions_correspond b
  have h₁ : b.position 1 = .ok ⟨1, 0⟩ := (hposition _ _).2 (by decide)
  have h₅ : b.position 5 = .ok ⟨3, 0⟩ := (hposition _ _).2 (by decide)
  exact ⟨h₁, h₅, (horder 1 5 _ _ h₁ h₅).1 (by decide), by decide, hbeyond 6 (by decide)⟩

end Buffer
end EditScript
