import EditScript.Proofs.Bus

/-!
# Runs of a bus

What is done with a bus, one operation at a time and in any order.

* `Bus.Operation`, `Bus.perform`, `Bus.after`: one operation, and what a run leaves.
* `Bus.emissions`: the events that a run emits, however long ago that was.
* `Bus.Recalls`: the bus keeps the end of a history of events. Every operation adds what it emits
  to the history (`Bus.Recalls.perform`), and so does a run (`Bus.Recalls.after`).
* `Bus.Recalls.next`: what a reader finds next, in terms of the history. This is where receiving
  again after a lag is looked at, and nowhere else.
* `Bus.Recalls.drain_eq`: to drain a reader is to read on until nothing is unread.
-/

namespace EditScript
namespace Bus

/-- Something that is done with a bus. -/
inductive Operation where
  /-- A reader is added. -/
  | subscribe
  /-- A handle is copied. -/
  | clone
  /-- A handle is given up. -/
  | drop
  /-- An event is emitted through a handle. -/
  | emit (e : Event)
  /-- A reader asks for its next event. -/
  | next (reader : Nat)
  deriving DecidableEq

/-- What a reader finds, if one asks, and the bus afterwards. -/
def perform (b : Bus) : Operation → Option Delivery × Bus
  | .subscribe => (none, b.subscribe)
  | .clone => (none, b.clone)
  | .drop => (none, b.drop)
  | .emit e => (none, b.emit e)
  | .next reader =>
    match b.next reader with
    | some (found, after) => (some found, after)
    | none => (none, b)

/-- The bus after several operations. -/
def after (b : Bus) (ops : List Operation) : Bus := ops.foldl (fun b op => (b.perform op).2) b

/-- The event that an operation emits. Without a handle there is none. -/
def emits (b : Bus) : Operation → List Event
  | .emit e => if b.handles = 0 then [] else [e]
  | .subscribe | .clone | .drop | .next _ => []

/-- The events that a run emits, in order. -/
def emissions : Bus → List Operation → List Event
  | _, [] => []
  | b, op :: ops => b.emits op ++ emissions (b.perform op).2 ops

variable {b : Bus}

/-! ## Receiving, and receiving again -/

/-- A reader that has fallen behind asks again. -/
theorem next_eq (b : Bus) (reader : Nat) :
    b.next reader =
      match b.receive reader with
      | none => none
      | some (.event e, c) => some (.event e, c)
      | some (.lagged _, c) => c.next reader
      | some (.empty, c) => some (.pending, c)
      | some (.closed, c) => some (.closed, c) := by
  rw [next]
  split <;> rename_i h <;> rw [h]

theorem next_of_event {c : Bus} {reader : Nat} {e : Event}
    (h : b.receive reader = some (.event e, c)) : b.next reader = some (.event e, c) := by
  rw [next_eq, h]

theorem next_of_lagged {c : Bus} {reader missed : Nat}
    (h : b.receive reader = some (.lagged missed, c)) : b.next reader = c.next reader := by
  rw [next_eq, h]

theorem next_of_nothing {reader : Nat}
    (h : b.receive reader = some (if b.handles = 0 then .closed else .empty, b)) :
    b.next reader = some (b.idle, b) := by
  rw [next_eq, h, idle]
  by_cases h0 : b.handles = 0
  · rw [if_pos h0, if_pos h0]
  · rw [if_neg h0, if_neg h0]

theorem next_of_unknown {reader : Nat} (h : b.readers[reader]? = none) :
    b.next reader = none := by
  have hnone : b.receive reader = none := by simp only [receive, h]
  rw [next_eq, hnone]

/-! ## The history of a bus -/

/-- The bus keeps the end of a history, as much as it has room for, and has a place in the history
for each reader. -/
structure Recalls (b : Bus) (history : List Event) : Prop where
  kept : b.kept = history.rtake capacity
  emitted : b.emitted = history.length
  readers : ∀ position ∈ b.readers, position ≤ history.length

theorem fresh_recalls : fresh.Recalls [] := ⟨rfl, rfl, fun _ h => absurd h List.not_mem_nil⟩

namespace Recalls

variable {history : List Event} {reader position : Nat}

theorem oldest (h : b.Recalls history) : b.oldest = history.length - capacity := by
  have hkept : b.kept.length = history.length - (history.length - capacity) := by
    rw [h.kept]
    exact List.length_drop
  have hemitted := h.emitted
  unfold Bus.oldest
  omega

theorem kept_getElem? (h : b.Recalls history) (hle : b.oldest ≤ position) :
    b.kept[position - b.oldest]? = history[position]? := by
  have hplace : history.length - capacity + (position - b.oldest) = position := by
    rw [h.oldest] at hle ⊢
    omega
  rw [h.kept, List.rtake, List.getElem?_drop, hplace]

/-- What a reader that is not behind finds. -/
theorem next_of_le (h : b.Recalls history) (hr : b.readers[reader]? = some position)
    (hle : b.oldest ≤ position) :
    b.next reader = some (match history.drop position with
      | e :: _ => (.event e, { b with readers := b.readers.set reader (position + 1) })
      | [] => (b.idle, b)) := by
  have hnot : ¬position < b.oldest := Nat.not_lt.2 hle
  cases hrest : history.drop position with
  | cons e rest =>
    have he : history[position]? = some e := by rw [← List.head?_drop, hrest, List.head?_cons]
    apply next_of_event
    simp only [receive, hr, if_neg hnot, h.kept_getElem? hle, he]
  | nil =>
    have he : history[position]? = none := by rw [← List.head?_drop, hrest, List.head?_nil]
    apply next_of_nothing
    simp only [receive, hr, if_neg hnot, h.kept_getElem? hle, he]

/-- A reader that has been told that it is behind finds an event: were none left, it would not have
missed any. -/
theorem exists_drop_oldest (h : b.Recalls history) (hlt : position < b.oldest) :
    ∃ e rest, history.drop b.oldest = e :: rest := by
  have holdest := h.oldest
  have hne : history.drop b.oldest ≠ [] := by
    rw [ne_eq, List.drop_eq_nil_iff]
    unfold capacity at holdest
    omega
  exact List.exists_cons_of_ne_nil hne

/-- **What a reader finds next**: the event at its place in the history, or the oldest one that is
kept if that is a later one. -/
theorem next (h : b.Recalls history) (hr : b.readers[reader]? = some position) :
    b.next reader = some (match history.drop (max position b.oldest) with
      | e :: _ => (.event e, { b with
          readers := b.readers.set reader (max position b.oldest + 1) })
      | [] => (b.idle, b)) := by
  by_cases hle : b.oldest ≤ position
  · rw [Nat.max_eq_left hle]
    exact h.next_of_le hr hle
  · -- The reader is told that it is behind, and receives again from where it is then.
    have hlt : position < b.oldest := Nat.lt_of_not_le hle
    obtain ⟨e, rest, hrest⟩ := h.exists_drop_oldest hlt
    obtain ⟨hreader, -⟩ := List.getElem?_eq_some_iff.1 hr
    let c : Bus := { b with readers := b.readers.set reader b.oldest }
    have hlagged : b.receive reader = some (.lagged (b.oldest - position), c) := by
      simp only [receive, hr, if_pos hlt, c]
    have hc : c.Recalls history := by
      refine ⟨h.kept, h.emitted, fun place hplace => ?_⟩
      rcases List.mem_or_eq_of_mem_set hplace with hmem | rfl
      · exact h.readers place hmem
      · exact h.oldest ▸ Nat.sub_le _ _
    have hnext := hc.next_of_le (List.getElem?_set_self hreader) (Nat.le_refl _)
    rw [next_of_lagged hlagged, hnext, Nat.max_eq_right (Nat.le_of_lt hlt), hrest]
    simp only [c, List.set_set]

theorem subscribe (h : b.Recalls history) : b.subscribe.Recalls history := by
  unfold Bus.subscribe
  split
  · exact h
  · refine ⟨h.kept, h.emitted, fun place hplace => ?_⟩
    rcases List.mem_append.1 hplace with hmem | hmem
    · exact h.readers place hmem
    · rw [List.mem_singleton.1 hmem, h.emitted]

theorem emit (h : b.Recalls history) (h0 : 0 < b.handles) (e : Event) :
    (b.emit e).Recalls (history ++ [e]) := by
  rw [emit_of_handles h0]
  refine ⟨?_, ?_, fun place hplace => ?_⟩
  · simp only [h.kept, rtake_append_rtake]
  · rw [h.emitted, List.length_append, List.length_singleton]
  · rw [List.length_append]
    exact Nat.le_add_right_of_le (h.readers place hplace)

/-- Reading takes the reader further, but not beyond the history. -/
theorem next_after (h : b.Recalls history) : (b.perform (.next reader)).2.Recalls history := by
  unfold Bus.perform
  cases hr : b.readers[reader]? with
  | none =>
    simp only [next_of_unknown hr]
    exact h
  | some position =>
    simp only [h.next hr]
    cases hrest : history.drop (max position b.oldest) with
    | nil => exact h
    | cons e rest =>
      refine ⟨h.kept, h.emitted, fun place hplace => ?_⟩
      rcases List.mem_or_eq_of_mem_set hplace with hmem | rfl
      · exact h.readers place hmem
      · have hlength := congrArg List.length hrest
        rw [List.length_drop, List.length_cons] at hlength
        omega

/-- Reading moves the place of the reader that reads, and nothing else. -/
theorem exists_next_after (h : b.Recalls history) (reader : Nat) :
    ∃ position, (b.perform (.next reader)).2 =
      { b with readers := b.readers.set reader position } := by
  unfold Bus.perform
  cases hr : b.readers[reader]? with
  | none =>
    have hsame : b.readers.set reader 0 = b.readers :=
      List.set_eq_of_length_le (List.getElem?_eq_none_iff.1 hr)
    simp only [next_of_unknown hr]
    exact ⟨0, by rw [hsame]⟩
  | some position =>
    have hsame : b.readers.set reader position = b.readers := by
      obtain ⟨hlt, hget⟩ := List.getElem?_eq_some_iff.1 hr
      rw [← hget]
      exact List.set_getElem_self hlt
    simp only [h.next hr]
    cases history.drop (max position b.oldest) with
    | nil => exact ⟨position, by rw [hsame]⟩
    | cons e rest => exact ⟨_, rfl⟩

theorem unread (h : b.Recalls history) (position : Nat) :
    b.unread position = history.drop (max position b.oldest) := by
  have hplace : b.oldest + (position - b.oldest) = max position b.oldest := by omega
  rw [Bus.unread, h.kept, List.rtake, ← h.oldest, List.drop_drop, hplace]

/-- **To drain is to read on** until nothing is unread. -/
theorem drain_eq (h : b.Recalls history) (reader : Nat) :
    b.drain reader =
      match b.next reader with
      | none => none
      | some (.event e, c) =>
        (c.drain reader).map fun (rest, found, c) => (e :: rest, found, c)
      | some (found, c) => some ([], found, c) := by
  cases hr : b.readers[reader]? with
  | none => simp [drain, hr, next_of_unknown hr]
  | some position =>
    obtain ⟨hlt, hget⟩ := List.getElem?_eq_some_iff.1 hr
    rw [h.next hr]
    cases hrest : history.drop (max position b.oldest) with
    | cons e rest =>
      let c : Bus := { b with readers := b.readers.set reader (max position b.oldest + 1) }
      have hc : c.readers[reader]? = some (max position b.oldest + 1) := List.getElem?_set_self hlt
      have hplace : max (max position b.oldest + 1) b.oldest = max position b.oldest + 1 := by
        omega
      have hunread : c.unread (max position b.oldest + 1) = rest := by
        show b.unread _ = rest
        rw [h.unread, hplace, ← List.drop_drop, hrest]
        rfl
      show b.drain reader = (c.drain reader).map _
      simp only [drain, hr, hc, Option.bind_eq_bind, Option.bind_some, h.unread, hrest, hunread,
        Option.pure_def, Option.map_some, c, List.set_set]
      rfl
    | nil =>
      -- The reader is where the history ends, and stays there.
      have hposition : b.emitted = position := by
        have hle := h.readers position (List.mem_of_getElem? hr)
        have hlength := List.drop_eq_nil_iff.1 hrest
        have holdest := h.oldest
        have hemitted := h.emitted
        unfold capacity at holdest
        omega
      have hset : b.readers.set reader b.emitted = b.readers := by
        rw [hposition, ← hget]
        exact List.set_getElem_self hlt
      have hdrain : b.drain reader = some ([], b.idle, b) := by
        simp only [drain, hr, Option.bind_eq_bind, Option.bind_some, h.unread, hrest,
          Option.pure_def, hset]
      rw [hdrain]
      unfold idle
      split <;> rfl

/-- Every operation adds what it emits to the history. -/
theorem perform (h : b.Recalls history) (op : Operation) :
    (b.perform op).2.Recalls (history ++ b.emits op) := by
  cases op with
  | emit e =>
    by_cases h0 : b.handles = 0
    · have hsame : b.emit e = b := if_pos h0
      simp only [emits, if_pos h0, List.append_nil, Bus.perform, hsame]
      exact h
    · simp only [emits, if_neg h0]
      exact h.emit (Nat.pos_of_ne_zero h0) e
  | subscribe => exact (List.append_nil history).symm ▸ h.subscribe
  | clone =>
    have hclone : b.clone.Recalls history := by
      unfold Bus.clone
      split <;> exact ⟨h.kept, h.emitted, h.readers⟩
    exact (List.append_nil history).symm ▸ hclone
  | drop => exact (List.append_nil history).symm ▸ ⟨h.kept, h.emitted, h.readers⟩
  | next reader => exact (List.append_nil history).symm ▸ h.next_after

theorem after (h : b.Recalls history) (ops : List Operation) :
    (b.after ops).Recalls (history ++ emissions b ops) := by
  induction ops generalizing b history with
  | nil => rw [emissions, List.append_nil]; exact h
  | cons op ops ih =>
    rw [emissions, ← List.append_assoc]
    exact ih (h.perform op)

end Recalls

end Bus
end EditScript
