import EditScript.Text.Basic

/-!
# Buffer

The text that commands work on. Every edit gives a new buffer and names the offset that is out
of bounds when it cannot be made.

* `BufferError`: why an offset or a range is refused. A reversed range is reported before one
  that ends beyond the buffer.
* `Buffer.insert`, `Buffer.delete`, `Buffer.replace`: the edits. The last two also give the
  removed text.
* `Buffer.slice`, `Buffer.lines`: reading a range, and the lines.
-/

namespace EditScript

/-- Why an offset or a range does not fit a buffer. -/
inductive BufferError where
  /-- The offset lies beyond the end of a buffer of the given length. -/
  | invalidIndex (index length : Nat)
  /-- The range starts after it ends. -/
  | invalidSelection (start stop : Nat)
  deriving DecidableEq

/-- What the user reads about the error. -/
def BufferError.message : BufferError → String
  | .invalidIndex index length =>
    s!"Invalid character index {index} (buffer length {length})"
  | .invalidSelection start stop =>
    s!"Selection is invalid: start {start} is after end {stop}"

/-- A text that is being edited. -/
structure Buffer where
  /-- The characters of the buffer, in order. -/
  chars : Text
  deriving DecidableEq

namespace Buffer

/-- The number of characters, which is also the largest offset. -/
def length (b : Buffer) : Nat := b.chars.length

/-- The buffer has no characters. -/
def isEmpty (b : Buffer) : Bool := b.chars.isEmpty

/-- The lines of the buffer, without their line feeds. There is at least one. -/
def lines (b : Buffer) : List Text := Text.lines b.chars

/-- The number of line feeds, plus one. -/
def lineCount (b : Buffer) : Nat := b.chars.count '\n' + 1

/-- Refuses an offset beyond the end. -/
def checkIndex (b : Buffer) (index : Nat) : Except BufferError Unit :=
  if b.length < index then .error (.invalidIndex index b.length) else .ok ()

/-- Refuses a reversed range, and one that ends beyond the end. -/
def checkRange (b : Buffer) (start stop : Nat) : Except BufferError Unit :=
  if stop < start then .error (.invalidSelection start stop) else b.checkIndex stop

/-- The characters from `start` up to `stop`. -/
def between (b : Buffer) (start stop : Nat) : Text := (b.chars.take stop).drop start

/-- The buffer with the characters from `start` up to `stop` exchanged for a text. -/
def splice (b : Buffer) (start stop : Nat) (text : Text) : Buffer :=
  ⟨b.chars.take start ++ text ++ b.chars.drop stop⟩

/-- The text of a range. -/
def slice (b : Buffer) (start stop : Nat) : Except BufferError Text := do
  b.checkRange start stop
  return b.between start stop

/-- The buffer with a text put in at an offset. -/
def insert (b : Buffer) (index : Nat) (text : Text) : Except BufferError Buffer := do
  b.checkIndex index
  return b.splice index index text

/-- The text of a range, and the buffer without it. -/
def delete (b : Buffer) (start stop : Nat) : Except BufferError (Text × Buffer) := do
  b.checkRange start stop
  return (b.between start stop, b.splice start stop [])

/-- The text of a range, and the buffer with another text in its place. -/
def replace (b : Buffer) (start stop : Nat) (text : Text) :
    Except BufferError (Text × Buffer) := do
  let (removed, rest) ← b.delete start stop
  return (removed, ← rest.insert start text)

end Buffer

end EditScript
