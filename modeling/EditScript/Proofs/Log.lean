import Mathlib.Data.List.DropRight
import EditScript.Log

/-!
# What a log keeps

A full log loses one entry for each that it gets. It would grow if it ever held more than it has
room for, and that it never does.

* `rtake_append_rtake`: the last ones of a list can be kept while it grows.
* `Log.Bounded`: a log within its room. Every push keeps this (`Log.Bounded.push`).
* `Log.entries_pushAll`: a bounded log holds the last of all entries that it had or got.
-/

namespace EditScript

/-- To keep the last ones as they come is to keep the last ones of all. -/
theorem rtake_append_rtake {α : Type} (n : Nat) (before after : List α) :
    (before.rtake n ++ after).rtake n = (before ++ after).rtake n := by
  simp only [List.rtake_eq_reverse_take_reverse, List.reverse_append, List.reverse_reverse,
    List.take_append, List.take_take]
  rw [Nat.min_eq_left (Nat.sub_le _ _)]

namespace Log

/-- The log has room for an entry, and holds no more than it has room for. -/
structure Bounded (l : Log) : Prop where
  room : 0 < l.capacity
  length_le : l.entries.length ≤ l.capacity

theorem bounded_ofCapacity (capacity : Nat) : (ofCapacity capacity).Bounded where
  room := Nat.lt_of_lt_of_le Nat.zero_lt_one (Nat.le_max_right capacity 1)
  length_le := Nat.zero_le _

variable {l : Log}

/-- One more entry, and the last as many as there is room for. -/
theorem entries_push (h : l.Bounded) (e : Entry) :
    (l.push e).entries = (l.entries ++ [e]).rtake l.capacity := by
  have hroom := h.room
  have hle := h.length_le
  unfold push List.rtake
  rw [List.length_append, List.length_singleton]
  by_cases hfull : l.entries.length = l.capacity
  · have hone : l.entries.length + 1 - l.capacity = 1 := by omega
    have hfit : 1 ≤ l.entries.length := by omega
    rw [if_pos hfull, hone, List.drop_append_of_le_length hfit]
  · have hnone : l.entries.length + 1 - l.capacity = 0 := by omega
    rw [if_neg hfull, hnone, List.drop_zero]

theorem Bounded.push (h : l.Bounded) (e : Entry) : (l.push e).Bounded where
  room := h.room
  length_le := by
    have hroom := h.room
    rw [entries_push h, List.rtake, List.length_drop]
    show _ ≤ l.capacity
    omega

/-- **A log holds the last of its entries**, as many as it has room for. -/
theorem entries_pushAll (h : l.Bounded) (es : List Entry) :
    (l.pushAll es).entries = (l.entries ++ es).rtake l.capacity := by
  induction es generalizing l with
  | nil =>
    have hnone : l.entries.length - l.capacity = 0 := Nat.sub_eq_zero_of_le h.length_le
    rw [List.append_nil, List.rtake, hnone]
    rfl
  | cons e es ih =>
    calc (l.pushAll (e :: es)).entries
        = ((l.push e).entries ++ es).rtake l.capacity := ih (h.push e)
      _ = ((l.entries ++ [e]).rtake l.capacity ++ es).rtake l.capacity := by rw [entries_push h]
      _ = (l.entries ++ e :: es).rtake l.capacity := by
        rw [rtake_append_rtake, List.append_assoc]
        rfl

end Log
end EditScript
