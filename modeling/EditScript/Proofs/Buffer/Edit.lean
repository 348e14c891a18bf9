import EditScript.Buffer.Basic

/-!
# Edits within bounds

An edit whose offsets lie within the buffer is made, and what it makes is one splice.

* `insert_eq_ok`, `delete_eq_ok`, `replace_eq_ok`: the result of each edit. A replacement is a
  deletion followed by an insertion at the same offset; the second cannot fail when the first
  has been made.
* `length_splice`: how long the buffer is afterwards, from which every bound of a new cursor
  follows.
* `between_splice`, `splice_between`: a splice is undone by putting back what it took out.
-/

namespace EditScript
namespace Buffer

variable {b : Buffer} {index start stop : Nat}

theorem checkIndex_eq_ok (h : index ≤ b.length) : b.checkIndex index = .ok () := by
  unfold checkIndex
  rw [if_neg (Nat.not_lt.2 h)]

theorem checkRange_eq_ok (h₁ : start ≤ stop) (h₂ : stop ≤ b.length) :
    b.checkRange start stop = .ok () := by
  unfold checkRange
  rw [if_neg (Nat.not_lt.2 h₁)]
  exact checkIndex_eq_ok h₂

/-- The characters before the range, the text, and the characters after the range. -/
theorem length_splice (text : Text) (h₁ : start ≤ stop) (h₂ : stop ≤ b.length) :
    (b.splice start stop text).length = start + text.length + (b.length - stop) := by
  unfold length splice at *
  simp only [List.length_append, List.length_take, List.length_drop]
  omega

/-- The offset after the text that a splice puts in lies within the new buffer. -/
theorem le_length_splice (text : Text) (h₁ : start ≤ stop) (h₂ : stop ≤ b.length) :
    start + text.length ≤ (b.splice start stop text).length := by
  rw [length_splice text h₁ h₂]
  omega

/-- To take a range out and then put a text in its place is one splice. -/
theorem splice_splice (text : Text) (h : start ≤ b.length) :
    (b.splice start stop []).splice start start text = b.splice start stop text := by
  have hl : (b.chars.take start).length = start := by
    unfold length at h
    rw [List.length_take]
    omega
  unfold splice
  simp only [List.append_nil, List.take_left' hl, List.drop_left' hl]

/-- What stands before an offset within the text that a splice puts in. -/
theorem take_splice (stop : Nat) (text more : Text) (h : start ≤ b.length) :
    (b.splice start stop (text ++ more)).chars.take (start + text.length) =
      b.chars.take start ++ text := by
  have hlength : (b.chars.take start ++ text).length = start + text.length := by
    rw [List.length_append, List.length_take_of_le h]
  unfold splice
  rw [← List.append_assoc, List.append_assoc _ more]
  exact List.take_left' hlength

/-- What stands after the text that a splice puts in. -/
theorem drop_splice (stop : Nat) (text : Text) (h : start ≤ b.length) :
    (b.splice start stop text).chars.drop (start + text.length) = b.chars.drop stop := by
  have hlength : (b.chars.take start ++ text).length = start + text.length := by
    rw [List.length_append, List.length_take_of_le h]
  exact List.drop_left' hlength

/-- What stands before a range, and the range. -/
theorem take_append_between (b : Buffer) (h : start ≤ stop) :
    b.chars.take start ++ b.between start stop = b.chars.take stop := by
  have htake : (b.chars.take stop).take start = b.chars.take start := by
    rw [List.take_take, Nat.min_eq_left h]
  unfold between
  rw [← htake, List.take_append_drop]

/-- The text that a splice puts in stands where the range was. -/
theorem between_splice (stop : Nat) (text : Text) (h : start ≤ b.length) :
    (b.splice start stop text).between start (start + text.length) = text := by
  have htake := take_splice stop text [] h
  rw [List.append_nil] at htake
  unfold between
  rw [htake, List.drop_left' (List.length_take_of_le h)]

/-- To put the range back in place of the text undoes a splice. -/
theorem splice_between (text : Text) (h₁ : start ≤ stop) (h₂ : stop ≤ b.length) :
    (b.splice start stop text).splice start (start + text.length) (b.between start stop) = b := by
  have hstart : start ≤ b.length := Nat.le_trans h₁ h₂
  have hbefore : (b.splice start stop text).chars.take start = b.chars.take start := by
    have htake := take_splice stop [] text hstart
    rwa [List.append_nil] at htake
  have hafter := drop_splice stop text hstart
  unfold splice at *
  rw [hbefore, hafter, take_append_between b h₁, List.take_append_drop]

theorem insert_eq_ok (text : Text) (h : index ≤ b.length) :
    b.insert index text = .ok (b.splice index index text) := by
  unfold insert
  rw [checkIndex_eq_ok h]
  rfl

theorem delete_eq_ok (h₁ : start ≤ stop) (h₂ : stop ≤ b.length) :
    b.delete start stop = .ok (b.between start stop, b.splice start stop []) := by
  unfold delete
  rw [checkRange_eq_ok h₁ h₂]
  rfl

theorem replace_eq_ok (text : Text) (h₁ : start ≤ stop) (h₂ : stop ≤ b.length) :
    b.replace start stop text = .ok (b.between start stop, b.splice start stop text) := by
  have hr : start ≤ (b.splice start stop []).length := by
    rw [length_splice [] h₁ h₂]
    omega
  unfold replace
  rw [delete_eq_ok h₁ h₂]
  show (do
    let rest ← (b.splice start stop []).insert start text
    pure (b.between start stop, rest)) = _
  rw [insert_eq_ok text hr, splice_splice text (Nat.le_trans h₁ h₂)]
  rfl

end Buffer
end EditScript
