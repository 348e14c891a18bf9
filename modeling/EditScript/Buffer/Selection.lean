import EditScript.Buffer.Basic

/-!
# Selection

A range of offsets, from `start` up to `stop`. A range without characters is a caret.

* `Selection.ofBounds`: the range between two offsets, refused when they are reversed.
* `Selection.fits`: the range lies within a buffer of a given length.
-/

namespace EditScript

/-- A pair of offsets. It need not be ordered, since a document may hold any pair. -/
structure Selection where
  /-- The offset of the first selected character. -/
  start : Nat
  /-- The offset after the last selected character. -/
  stop : Nat
  deriving DecidableEq

namespace Selection

/-- The range between two offsets that are in order. -/
def ofBounds (start stop : Nat) : Except BufferError Selection :=
  if stop < start then .error (.invalidSelection start stop) else .ok ⟨start, stop⟩

/-- The range without characters at an offset. -/
def caret (index : Nat) : Selection := ⟨index, index⟩

/-- The range starts where it ends. -/
def isCaret (s : Selection) : Bool := s.start == s.stop

/-- The number of selected characters; none if the range is reversed. -/
def length (s : Selection) : Nat := s.stop - s.start

/-- The range is in order and ends within a buffer of the given length. -/
def fits (s : Selection) (length : Nat) : Bool := s.start ≤ s.stop && s.stop ≤ length

/-- The range as the user reads it. -/
def display (s : Selection) : String := s!"{s.start}-{s.stop}"

end Selection

end EditScript
