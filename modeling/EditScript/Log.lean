/-!
# Activity log

The last things that happened in a session, for the user to read.

* `Log.push`: appends an entry. A full log loses its oldest one.
* `Log.ofCapacity`: an empty log. It has room for at least one entry.
-/

namespace EditScript

namespace Log

/-- What an entry tells of. -/
inductive Kind where
  /-- An instruction for the assistant. -/
  | instruction
  /-- A command line that was run. -/
  | command
  /-- Lines that the assistant sent. -/
  | assistReply
  /-- A request to the assistant that failed. -/
  | assistError
  deriving DecidableEq

/-- One entry of the log. -/
structure Entry where
  /-- What the entry tells of. -/
  kind : Kind
  /-- It went well. -/
  success : Bool
  /-- What the user reads. -/
  message : String
  deriving DecidableEq

/-- The mark in front of a message. -/
def mark (success : Bool) : String := if success then "✓" else "✗"

/-- The entry as the user reads it. -/
def Entry.display (e : Entry) : String := s!"{mark e.success} {e.message}"

end Log

/-- A list of entries with room for so many. -/
structure Log where
  /-- The entries, oldest first. -/
  entries : List Log.Entry
  /-- The number of entries that are kept. -/
  capacity : Nat
  deriving DecidableEq

namespace Log

/-- A log without entries. -/
def ofCapacity (capacity : Nat) : Log := ⟨[], max capacity 1⟩

/-- The log with one more entry, and without its oldest one if it was full. -/
def push (l : Log) (e : Entry) : Log :=
  { l with entries :=
      (if l.entries.length = l.capacity then l.entries.drop 1 else l.entries) ++ [e] }

/-- The log after several entries. -/
def pushAll (l : Log) (entries : List Entry) : Log := entries.foldl push l

end Log

end EditScript
