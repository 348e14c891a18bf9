import EditScript.Proofs.Bus.Run

/-!
# Event delivery

What becomes of the events of a bus, reader by reader, in every order of emitting, subscribing and
reading.

* `Bus.Backlog`: the events that were emitted since a reader subscribed, those that are over for it
  and those that it has not read. Nothing but the emissions and its own reading changes them
  (`Bus.Backlog.perform`), and reading alone makes it miss some (`Bus.Backlog.read`).
* `Bus.Backlog.Follows`: the backlog and the place that the bus has for the reader agree. Every
  operation keeps this (`Bus.Backlog.Follows.perform`).
* `Bus.Backlog.Serves`: what the reader finds, by what it has not read.
* `Bus.SameFor`, `Bus.deliveries_filter`: what a reader finds does not depend on what others read.
* `Bus.events_delivered`: what follows for every run.
-/

namespace EditScript
namespace Bus

/-- The event that was found, if one was. -/
def Delivery.event? : Delivery → Option Event
  | .event e => some e
  | .pending | .closed => none

theorem event?_idle (b : Bus) : b.idle.event? = none := by
  unfold idle
  split <;> rfl

/-- What one reader finds in a run, each time that it asks. -/
def deliveries (reader : Nat) : Bus → List Operation → List Delivery
  | _, [] => []
  | b, op :: ops =>
    (if op = .next reader then (b.perform op).1.toList else []) ++
      deliveries reader (b.perform op).2 ops

/-- What has become of the events that were emitted since a reader subscribed. -/
structure Backlog where
  /-- The events that are over for the reader, in order, each with whether it was given out. -/
  passed : List (Event × Bool)
  /-- The events after those. -/
  unread : List Event

namespace Backlog

/-- What there is when the reader subscribes. -/
def start : Backlog := ⟨[], []⟩

/-- The number of events that the reader misses when it reads on. -/
def missed (x : Backlog) : Nat := x.unread.length - capacity

/-- The reader reads on. It misses the oldest events, as many as there are more unread than the bus
keeps, and is given the oldest of the others. -/
def read (x : Backlog) : Backlog where
  passed := x.passed ++ (x.unread.take x.missed).map (·, false) ++
    ((x.unread.drop x.missed).take 1).map (·, true)
  unread := x.unread.drop (x.missed + 1)

/-- What an operation on a bus changes: the reader reads on, or what is emitted is added. -/
def perform (reader : Nat) (b : Bus) (x : Backlog) : Operation → Backlog
  | .next other => if other = reader then x.read else x
  | op => { x with unread := x.unread ++ b.emits op }

/-- The backlog after a run. -/
def after (reader : Nat) : Bus → Backlog → List Operation → Backlog
  | _, x, [] => x
  | b, x, op :: ops => after reader (b.perform op).2 (x.perform reader b op) ops

/-- The events that were given out. -/
def given (x : Backlog) : List Event := (x.passed.filter Prod.snd).map Prod.fst

/-- The backlog tells what the reader finds. -/
structure Serves (x : Backlog) (b : Bus) (reader : Nat) : Prop where
  /-- The event after those that are missed. -/
  event_iff : ∀ e, (b.perform (.next reader)).1 = some (.event e) ↔ x.unread[x.missed]? = some e
  /-- Nothing is unread, and there is a handle. -/
  pending_iff : (b.perform (.next reader)).1 = some .pending ↔ x.unread = [] ∧ 0 < b.handles
  /-- Nothing is unread, and there is no handle. -/
  closed_iff : (b.perform (.next reader)).1 = some .closed ↔ x.unread = [] ∧ b.handles = 0

/-- The bus has a place for the reader where its unread events begin. With those that are over for
it, they are the history since it subscribed. -/
structure Follows (x : Backlog) (b : Bus) (history : List Event) (reader since : Nat) : Prop where
  recalls : b.Recalls history
  place : ∃ position, b.readers[reader]? = some position ∧ x.unread = history.drop position
  since_le : since ≤ history.length
  whole : x.passed.map Prod.fst ++ x.unread = history.drop since

variable {x : Backlog} {b : Bus} {history : List Event} {reader since : Nat}

/-- Fewer events are missed than are unread. -/
theorem missed_lt (h : x.unread ≠ []) : x.missed < x.unread.length := by
  have hlength := List.length_pos_iff.2 h
  unfold missed capacity
  omega

theorem whole_read (x : Backlog) :
    x.read.passed.map Prod.fst ++ x.read.unread = x.passed.map Prod.fst ++ x.unread := by
  have hmissed : (x.unread.take x.missed).map (Prod.fst ∘ (·, false)) = x.unread.take x.missed :=
    List.map_id _
  have hgiven : ((x.unread.drop x.missed).take 1).map (Prod.fst ∘ (·, true)) =
      (x.unread.drop x.missed).take 1 := List.map_id _
  unfold read
  rw [List.map_append, List.map_append, List.map_map, List.map_map, hmissed, hgiven,
    ← List.drop_drop, List.append_assoc, List.append_assoc, List.take_append_drop,
    List.take_append_drop]

theorem given_read (x : Backlog) : x.read.given = x.given ++ x.unread[x.missed]?.toList := by
  have hmissed : ((x.unread.take x.missed).map (·, false)).filter Prod.snd = [] := by
    rw [List.filter_eq_nil_iff]
    intro p hp
    obtain ⟨e, -, rfl⟩ := List.mem_map.1 hp
    exact Bool.false_ne_true
  have hgiven : ((x.unread[x.missed]?.toList.map (·, true)).filter Prod.snd).map Prod.fst =
      x.unread[x.missed]?.toList := by
    cases x.unread[x.missed]? <;> rfl
  unfold given read
  rw [List.take_one, List.head?_drop, List.filter_append, List.filter_append, hmissed,
    List.append_nil, List.map_append, hgiven]

namespace Follows

/-- What the reader does not miss is what the history has from its next place on. -/
theorem drop_missed (h : x.Follows b history reader since) {position : Nat}
    (hr : b.readers[reader]? = some position) (hx : x.unread = history.drop position) :
    x.unread.drop x.missed = history.drop (max position b.oldest) := by
  have hle := h.recalls.readers position (List.mem_of_getElem? hr)
  have holdest := h.recalls.oldest
  have hplace : position + (history.length - position - capacity) = max position b.oldest := by
    omega
  rw [missed, hx, List.length_drop, List.drop_drop, hplace]

/-- What the reader finds, and the place that it goes on from. -/
theorem next (h : x.Follows b history reader since) :
    b.next reader = some (match x.unread[x.missed]? with
      | some e => (.event e, { b with
          readers := b.readers.set reader (history.length - x.read.unread.length) })
      | none => (b.idle, b)) := by
  obtain ⟨position, hr, hx⟩ := h.place
  have hdrop := h.drop_missed hr hx
  rw [h.recalls.next hr, ← hdrop, ← List.head?_drop]
  cases hrest : x.unread.drop x.missed with
  | nil => rfl
  | cons e rest =>
    have hread : x.read.unread = rest := by
      show x.unread.drop (x.missed + 1) = rest
      rw [← List.drop_drop, hrest]
      rfl
    have hlength := congrArg List.length (hdrop.symm.trans hrest)
    rw [List.length_drop, List.length_cons] at hlength
    have hplace : max position b.oldest + 1 = history.length - x.read.unread.length := by
      rw [hread]
      omega
    rw [hplace]
    rfl

/-- The backlog tells what the reader finds. -/
theorem found (h : x.Follows b history reader since) :
    (b.perform (.next reader)).1 = some (match x.unread[x.missed]? with
      | some e => .event e
      | none => b.idle) := by
  unfold Bus.perform
  simp only [h.next]
  cases x.unread[x.missed]? <;> rfl

theorem serves (h : x.Follows b history reader since) : x.Serves b reader := by
  have hfound := h.found
  by_cases hx : x.unread = []
  · have hnone : x.unread[x.missed]? = none := by rw [hx]; rfl
    rw [hnone] at hfound
    unfold idle at hfound
    refine ⟨fun e => ?_, ?_, ?_⟩ <;> rw [hfound] <;> by_cases h0 : b.handles = 0 <;>
      simp [h0, hx, Nat.pos_iff_ne_zero]
  · obtain ⟨e, he⟩ : ∃ e, x.unread[x.missed]? = some e :=
      ⟨_, List.getElem?_eq_getElem (missed_lt hx)⟩
    rw [he] at hfound
    refine ⟨fun e' => ?_, ?_, ?_⟩ <;> rw [hfound] <;> simp [he, hx]

/-- The unread events are the end of the history. -/
theorem unread_suffix (h : x.Follows b history reader since) : x.unread <:+ history := by
  obtain ⟨position, -, hx⟩ := h.place
  exact hx ▸ List.drop_suffix position history

/-- The bus has the place of the reader after it has read on. -/
theorem place_read (h : x.Follows b history reader since) :
    ∃ position, (b.perform (.next reader)).2.readers[reader]? = some position ∧
      x.read.unread = history.drop position := by
  obtain ⟨position, hr, hx⟩ := h.place
  obtain ⟨hlt, -⟩ := List.getElem?_eq_some_iff.1 hr
  have hnext := h.next
  unfold Bus.perform
  simp only [hnext]
  cases he : x.unread[x.missed]? with
  | some e =>
    refine ⟨_, List.getElem?_set_self hlt, ?_⟩
    exact List.suffix_iff_eq_drop.1 ((List.drop_suffix _ _).trans h.unread_suffix)
  | none =>
    -- Nothing was unread, and nothing changes.
    have hnil : x.unread = [] := by
      by_contra hne
      exact absurd (missed_lt hne) (Nat.not_lt.2 (List.getElem?_eq_none_iff.1 he))
    refine ⟨position, hr, ?_⟩
    rw [← hx]
    show x.unread.drop _ = x.unread
    rw [hnil, List.drop_nil]

/-- Whoever reads, the backlog and the bus still agree. -/
theorem next_after (h : x.Follows b history reader since) (other : Nat) :
    (x.perform reader b (.next other)).Follows (b.perform (.next other)).2 history reader
      since := by
  have hrecalls : (b.perform (.next other)).2.Recalls history := h.recalls.next_after
  unfold Backlog.perform
  by_cases hother : other = reader
  · subst hother
    simp only [↓reduceIte]
    exact ⟨hrecalls, h.place_read, h.since_le, x.whole_read.trans h.whole⟩
  · simp only [if_neg hother]
    obtain ⟨position, hr, hx⟩ := h.place
    obtain ⟨_, hafter⟩ := h.recalls.exists_next_after other
    refine ⟨hrecalls, ⟨position, ?_, hx⟩, h.since_le, h.whole⟩
    rw [hafter, List.getElem?_set_ne hother]
    exact hr

/-- What is emitted is added to the history and to what is unread. -/
theorem add (h : x.Follows b history reader since) {c : Bus} {new : List Event}
    (hc : c.Recalls (history ++ new)) (hr : c.readers[reader]? = b.readers[reader]?) :
    Follows { x with unread := x.unread ++ new } c (history ++ new) reader since := by
  obtain ⟨position, hposition, hx⟩ := h.place
  have hle := h.recalls.readers position (List.mem_of_getElem? hposition)
  refine ⟨hc, ⟨position, hr.trans hposition, ?_⟩, ?_, ?_⟩
  · rw [List.drop_append_of_le_length hle, hx]
  · rw [List.length_append]
    exact Nat.le_add_right_of_le h.since_le
  · rw [List.drop_append_of_le_length h.since_le, ← h.whole, List.append_assoc]

/-- The backlog and the bus agree after every operation. -/
theorem perform (h : x.Follows b history reader since) (op : Operation) :
    (x.perform reader b op).Follows (b.perform op).2 (history ++ b.emits op) reader since := by
  have hrecalls := h.recalls.perform op
  cases op with
  | next other => exact (List.append_nil history).symm ▸ h.next_after other
  | subscribe =>
    obtain ⟨position, hr, -⟩ := h.place
    obtain ⟨hlt, -⟩ := List.getElem?_eq_some_iff.1 hr
    refine h.add hrecalls ?_
    show b.subscribe.readers[reader]? = _
    unfold Bus.subscribe
    split
    · rfl
    · exact List.getElem?_append_left hlt
  | clone =>
    refine h.add hrecalls ?_
    show b.clone.readers[reader]? = _
    unfold Bus.clone
    split <;> rfl
  | drop => exact h.add hrecalls rfl
  | emit e =>
    refine h.add hrecalls ?_
    show (b.emit e).readers[reader]? = _
    unfold Bus.emit
    split <;> rfl

theorem after (h : x.Follows b history reader since) (ops : List Operation) :
    (x.after reader b ops).Follows (b.after ops) (history ++ emissions b ops) reader since := by
  induction ops generalizing x b history with
  | nil =>
    rw [emissions, List.append_nil]
    exact h
  | cons op ops ih =>
    rw [emissions, ← List.append_assoc]
    exact ih (h.perform op)

/-- The reader is given what it finds. -/
theorem given_perform (h : x.Follows b history reader since) (op : Operation) :
    (x.perform reader b op).given =
      x.given ++ (if op = .next reader then (b.perform op).1.toList else []).filterMap
        Delivery.event? := by
  by_cases hop : op = .next reader
  · subst hop
    have hgiven : (x.perform reader b (.next reader)).given = x.read.given := by
      simp only [Backlog.perform, ↓reduceIte]
    rw [hgiven, given_read, if_pos rfl, h.found]
    congr 1
    cases x.unread[x.missed]? with
    | some e => rfl
    | none =>
      simp only [Option.toList_none, Option.toList_some, List.filterMap_cons, event?_idle,
        List.filterMap_nil]
  · rw [if_neg hop, List.filterMap_nil, List.append_nil]
    cases op with
    | next other =>
      have hother : other ≠ reader := fun h => hop (congrArg Operation.next h)
      simp only [Backlog.perform, if_neg hother]
    | subscribe | clone | drop | emit => rfl

theorem given_after (h : x.Follows b history reader since) (ops : List Operation) :
    (x.after reader b ops).given =
      x.given ++ (deliveries reader b ops).filterMap Delivery.event? := by
  induction ops generalizing x b history with
  | nil => exact (List.append_nil x.given).symm
  | cons op ops ih =>
    rw [deliveries, List.filterMap_append, ← List.append_assoc, ← h.given_perform op]
    exact ih (h.perform op)

end Follows

end Backlog

/-! ## Reading apart -/

/-- The operation is anything but the reading of another reader. -/
def Operation.concerns (reader : Nat) : Operation → Bool
  | .next other => other == reader
  | .subscribe | .clone | .drop | .emit _ => true

/-- The buses differ only in the places of other readers. -/
structure SameFor (reader : Nat) (b c : Bus) : Prop where
  kept : b.kept = c.kept
  emitted : b.emitted = c.emitted
  handles : b.handles = c.handles
  count : b.readers.length = c.readers.length
  place : b.readers[reader]? = c.readers[reader]?

namespace SameFor

variable {b c : Bus} {history : List Event} {reader : Nat}

theorem refl (reader : Nat) (b : Bus) : SameFor reader b b := ⟨rfl, rfl, rfl, rfl, rfl⟩

/-- The reading of another reader makes no difference. -/
theorem apart (h : SameFor reader b c) (hb : b.Recalls history) {other : Nat}
    (hother : other ≠ reader) : SameFor reader (b.perform (.next other)).2 c := by
  obtain ⟨position, hafter⟩ := hb.exists_next_after other
  rw [hafter]
  refine ⟨h.kept, h.emitted, h.handles, ?_, ?_⟩
  · rw [List.length_set]
    exact h.count
  · rw [List.getElem?_set_ne hother]
    exact h.place

/-- The reader finds the same. -/
theorem next (h : SameFor reader b c) (hb : b.Recalls history) (hc : c.Recalls history) :
    (b.perform (.next reader)).1 = (c.perform (.next reader)).1 ∧
      SameFor reader (b.perform (.next reader)).2 (c.perform (.next reader)).2 := by
  unfold Bus.perform
  cases hr : b.readers[reader]? with
  | none =>
    simp only [next_of_unknown hr, next_of_unknown (h.place ▸ hr)]
    exact ⟨trivial, h⟩
  | some position =>
    have holdest : b.oldest = c.oldest := hb.oldest.trans hc.oldest.symm
    have hidle : b.idle = c.idle := by
      unfold idle
      rw [h.handles]
    obtain ⟨hlt, -⟩ := List.getElem?_eq_some_iff.1 hr
    simp only [hb.next hr, hc.next (h.place ▸ hr), holdest]
    cases history.drop (max position c.oldest) with
    | nil => exact ⟨congrArg some hidle, h⟩
    | cons e rest =>
      refine ⟨rfl, h.kept, h.emitted, h.handles, ?_, ?_⟩
      · simpa only [List.length_set] using h.count
      · simp only [List.getElem?_set_self hlt, List.getElem?_set_self (h.count ▸ hlt)]

theorem subscribe (h : SameFor reader b c) : SameFor reader b.subscribe c.subscribe := by
  unfold Bus.subscribe
  rw [h.handles]
  split
  · exact h
  · refine ⟨h.kept, h.emitted, rfl, ?_, ?_⟩
    · simp only [List.length_append, List.length_singleton, h.count]
    · simp only [List.getElem?_append, h.count, h.place, h.emitted]

theorem emit (h : SameFor reader b c) (e : Event) : SameFor reader (b.emit e) (c.emit e) := by
  unfold Bus.emit
  rw [h.handles]
  split
  · exact h
  · exact ⟨by simp only [h.kept], by simp only [h.emitted], rfl, h.count, h.place⟩

/-- Whatever is done in both, the reader finds the same. -/
theorem perform (h : SameFor reader b c) (hb : b.Recalls history) (hc : c.Recalls history)
    {op : Operation} (hop : op.concerns reader = true) :
    (b.perform op).1 = (c.perform op).1 ∧
      SameFor reader (b.perform op).2 (c.perform op).2 := by
  cases op with
  | next other =>
    obtain rfl : other = reader := by simpa [Operation.concerns] using hop
    exact h.next hb hc
  | subscribe => exact ⟨rfl, h.subscribe⟩
  | clone =>
    have hclone : SameFor reader b.clone c.clone := by
      unfold Bus.clone
      rw [h.handles]
      split
      · exact h
      · exact ⟨h.kept, h.emitted, rfl, h.count, h.place⟩
    exact ⟨rfl, hclone⟩
  | drop => exact ⟨rfl, h.kept, h.emitted, congrArg (· - 1) h.handles, h.count, h.place⟩
  | emit e => exact ⟨rfl, h.emit e⟩

theorem emits (h : SameFor reader b c) (op : Operation) : b.emits op = c.emits op := by
  cases op with
  | emit e => simp only [Bus.emits, h.handles]
  | subscribe | clone | drop | next => rfl

end SameFor

/-- **What others read makes no difference to a reader.** It finds the same if they do not read at
all. -/
theorem deliveries_filter {b c : Bus} {history : List Event} {reader : Nat}
    (h : SameFor reader b c) (hb : b.Recalls history) (hc : c.Recalls history)
    (ops : List Operation) :
    deliveries reader b ops = deliveries reader c (ops.filter (·.concerns reader)) := by
  induction ops generalizing b c history with
  | nil => rfl
  | cons op ops ih =>
    cases hop : op.concerns reader with
    | true =>
      obtain ⟨hfound, hafter⟩ := h.perform hb hc hop
      have hrest := ih hafter (hb.perform op) (h.emits op ▸ hc.perform op)
      rw [List.filter_cons_of_pos (by exact hop), deliveries, deliveries, hfound, hrest]
    | false =>
      obtain ⟨other, hother, rfl⟩ : ∃ other, other ≠ reader ∧ op = .next other := by
        cases op with
        | next other => exact ⟨other, by simpa [Operation.concerns] using hop, rfl⟩
        | subscribe | clone | drop | emit => cases hop
      have hne : Operation.next other ≠ .next reader := fun h => hother (Operation.next.inj h)
      rw [List.filter_cons_of_neg (by simp [hop]), deliveries, if_neg hne, List.nil_append]
      exact ih (h.apart hb hother) hb.next_after hc

/-- **Event delivery.** A reader subscribes to a bus that any run has led to, and any run goes on
from there. The events that were emitted since are, in order, those that are over for the reader,
given out or missed, and those that it has not read. The ones given out are those that its calls
found. Its next call finds the oldest unread event, or, if more are unread than the bus keeps, the
one after as many as there are too many; with nothing unread it finds whether there is a handle
left. No reader would find anything else if others did not read. -/
theorem events_delivered (before during : List Operation) (h : 0 < (fresh.after before).handles) :
    let first := (fresh.after before).subscribe
    let reader := (fresh.after before).readers.length
    let x := Backlog.start.after reader first during
    x.passed.map Prod.fst ++ x.unread = emissions first during ∧
      (deliveries reader first during).filterMap Delivery.event? =
        (x.passed.filter Prod.snd).map Prod.fst ∧
      x.Serves (first.after during) reader ∧
      ∀ observer, deliveries observer fresh (before ++ .subscribe :: during) =
        deliveries observer fresh
          ((before ++ .subscribe :: during).filter (·.concerns observer)) := by
  intro first reader x
  have hbefore := fresh_recalls.after before
  rw [List.nil_append] at hbefore
  have hplace : first.readers[reader]? = some (emissions fresh before).length := by
    have hfirst : first.readers =
        (fresh.after before).readers ++ [(fresh.after before).emitted] := by
      simp only [first, Bus.subscribe, if_neg (Nat.pos_iff_ne_zero.1 h)]
    rw [hfirst, ← hbefore.emitted]
    exact List.getElem?_concat_length
  have hstart : Backlog.start.Follows first (emissions fresh before) reader
      (emissions fresh before).length :=
    ⟨hbefore.subscribe, ⟨_, hplace, List.drop_length.symm⟩, Nat.le_refl _,
      List.drop_length.symm⟩
  have hend := hstart.after during
  refine ⟨?_, (hstart.given_after during).symm, hend.serves, fun observer =>
    deliveries_filter (.refl observer fresh) fresh_recalls fresh_recalls _⟩
  rw [hend.whole, List.drop_left' rfl]

/-- One event more than the bus keeps: the reader misses the first of them, and is given the second,
although no handle is left. -/
theorem oldest_event_missed :
    let before := [Operation.emit .queueChanged]
    let during :=
      (List.range 257).map (fun n => Operation.emit (.sequenceCommitted n 0)) ++ [.drop]
    let first := (fresh.after before).subscribe
    0 < (fresh.after before).handles ∧
      ((first.after during).perform (.next 0)).1 = some (.event (.sequenceCommitted 1 0)) := by
  intro before during first
  obtain ⟨-, -, hserves, -⟩ := events_delivered before during Nat.one_pos
  let x := Backlog.start.after 0 first during
  have hx : x.unread[x.missed]? = some (.sequenceCommitted 1 0) := by decide +kernel
  exact ⟨Nat.one_pos, (hserves.event_iff _).2 hx⟩

end Bus
end EditScript
