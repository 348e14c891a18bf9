import EditScript.Buffer.Basic

/-!
# Position

Where an offset lies in terms of lines. Commands address a buffer by offset; positions are for
the reader.

* `Buffer.position`: the line and the column of an offset.
* `Position.display`: lines are counted from one and columns from zero.
-/

namespace EditScript

/-- A line and a column of it, both counted from zero. -/
structure Position where
  /-- The number of lines before. -/
  line : Nat
  /-- The number of characters before, in the same line. -/
  column : Nat
  deriving DecidableEq

/-- The position as the user reads it. -/
def Position.display (p : Position) : String := s!"{p.line + 1}:{p.column}"

/-- The position that a text ends at: its line feeds, and the characters after the last one. -/
def Text.endPosition (t : Text) : Position where
  line := t.count '\n'
  column := (t.reverse.takeWhile (· ≠ '\n')).length

/-- The position of an offset. -/
def Buffer.position (b : Buffer) (index : Nat) : Except BufferError Position := do
  b.checkIndex index
  return Text.endPosition (b.chars.take index)

end EditScript
