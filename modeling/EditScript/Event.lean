import EditScript.Queue

/-!
# Events

What a session announces, and the bus that carries the announcements to their readers.

* `Event`: something that an observer may have to show.
* `Bus.emit`: hands an event to every reader. The bus keeps the last `Bus.capacity` events.
* `Bus.receive`: what the bus has for one reader. A reader that has fallen behind is told how
  many events it has missed, once, and goes on with the oldest event that is still kept.
* `Bus.next`: the next event of one reader, whatever it has missed. After the last handle is gone
  a reader still gets what it has not read.
-/

namespace EditScript

/-- Something happened in a session. -/
inductive Event where
  /-- The content, the cursor or the selection may have changed. -/
  | bufferChanged
  /-- A line was added, edited, replaced or run. -/
  | queueChanged
  /-- A single line was run. -/
  | commandExecuted (line : LineId) (success : Bool)
  /-- The pending lines were run. -/
  | sequenceCommitted (attempted failed : Nat)
  /-- A request to the assistant failed. -/
  | assistFailed (message : String)
  deriving DecidableEq

/-- A channel from the handles that emit events to the readers that have subscribed. -/
structure Bus where
  /-- The last events, oldest first. -/
  kept : List Event
  /-- The number of events emitted so far. -/
  emitted : Nat
  /-- The number of handles through which events can still be emitted. -/
  handles : Nat
  /-- For each reader the number of the event that it is to read next. -/
  readers : List Nat
  deriving DecidableEq

namespace Bus

/-- The number of events that the bus keeps for readers that have not read them. -/
def capacity : Nat := 256

/-- What a reader finds. -/
inductive Delivery where
  /-- The next event. -/
  | event (e : Event)
  /-- Nothing is unread, but there may be more. -/
  | pending
  /-- Nothing is unread, and there will be no more. -/
  | closed
  deriving DecidableEq

/-- A bus with one handle and no readers. -/
def fresh : Bus := ⟨[], 0, 1, []⟩

/-- One more reader, for the events from now on; without a handle there is nothing to subscribe
to. -/
def subscribe (b : Bus) : Bus :=
  if b.handles = 0 then b else { b with readers := b.readers ++ [b.emitted] }

/-- One more handle, if there is one to copy. -/
def clone (b : Bus) : Bus :=
  if b.handles = 0 then b else { b with handles := b.handles + 1 }

/-- One handle less. -/
def drop (b : Bus) : Bus := { b with handles := b.handles - 1 }

/-- An event for every reader. Without a handle nothing is emitted. -/
def emit (b : Bus) (e : Event) : Bus :=
  if b.handles = 0 then b
  else { b with
    kept := (b.kept ++ [e]).drop (b.kept.length + 1 - capacity)
    emitted := b.emitted + 1 }

/-- The number of the oldest event that is kept. -/
def oldest (b : Bus) : Nat := b.emitted - b.kept.length

/-- The events that a reader can still get, if its next event has a given number. -/
def unread (b : Bus) (position : Nat) : List Event := b.kept.drop (position - b.oldest)

/-- What a reader finds when nothing is unread. -/
def idle (b : Bus) : Delivery := if b.handles = 0 then .closed else .pending

/-- What the bus has for a reader. -/
inductive Reception where
  /-- The event that the reader is to read next. -/
  | event (e : Event)
  /-- That event and others are gone, so many in all. -/
  | lagged (missed : Nat)
  /-- Nothing, but there may be more. -/
  | empty
  /-- Nothing, and there will be no more. -/
  | closed
  deriving DecidableEq

/-- What the bus has for a reader, and the bus after that; nothing if there is no such reader. -/
def receive (b : Bus) (reader : Nat) : Option (Reception × Bus) :=
  match b.readers[reader]? with
  | none => none
  | some position =>
    if position < b.oldest then
      some (.lagged (b.oldest - position), { b with readers := b.readers.set reader b.oldest })
    else
      match b.kept[position - b.oldest]? with
      | some e => some (.event e, { b with readers := b.readers.set reader (position + 1) })
      | none => some (if b.handles = 0 then .closed else .empty, b)

/-- The number of events that are gone before the reader has read them. -/
def behind (b : Bus) (reader : Nat) : Nat :=
  match b.readers[reader]? with
  | some position => b.oldest - position
  | none => 0

/-- A reader that is told what it has missed is behind no longer. -/
theorem behind_of_lagged {b c : Bus} {reader missed : Nat}
    (h : b.receive reader = some (.lagged missed, c)) :
    c.behind reader = 0 ∧ 0 < b.behind reader := by
  unfold receive at h
  unfold behind
  split at h
  · cases h
  · rename_i position hposition
    obtain ⟨hreader, -⟩ := List.getElem?_eq_some_iff.1 hposition
    split at h
    · rename_i hlt
      cases h
      rw [hposition]
      simp only [List.getElem?_set_self hreader]
      exact ⟨Nat.sub_self _, Nat.sub_pos_of_lt hlt⟩
    · split at h
      · cases h
      · split at h <;> cases h

/-- What a reader finds next, and the bus after it has read that; nothing if there is no such
reader. A reader that has missed events is not told so, and asks again. -/
def next (b : Bus) (reader : Nat) : Option (Delivery × Bus) :=
  match _told : b.receive reader with
  | none => none
  | some (.event e, after) => some (.event e, after)
  | some (.lagged _, after) => after.next reader
  | some (.empty, after) => some (.pending, after)
  | some (.closed, after) => some (.closed, after)
termination_by b.behind reader
decreasing_by
  obtain ⟨hafter, hbefore⟩ := behind_of_lagged _told
  omega

/-- All that a reader has not read, what it finds after that, and the bus afterwards. -/
def drain (b : Bus) (reader : Nat) : Option (List Event × Delivery × Bus) := do
  let position ← b.readers[reader]?
  return (b.unread position, b.idle, { b with readers := b.readers.set reader b.emitted })

end Bus

end EditScript
