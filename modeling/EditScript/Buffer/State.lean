import EditScript.Buffer.Selection

/-!
# Editor state

A buffer with a cursor and a selection, all within bounds.

* `State`: the bounds are part of the type.
* `State.ofParts`: the only test of the bounds. It names the first one that is broken: the
  cursor, then a reversed selection, then the end of the selection.
* `State.withCursor`, `State.withSelection`: the cursor takes the selection along, the
  selection leaves the cursor where it is.
-/

namespace EditScript

/-- What a command is run against. -/
@[ext]
structure State where
  /-- The text. -/
  content : Buffer
  /-- The offset that text is inserted at when nothing is selected. -/
  cursor : Nat
  /-- The selected range. -/
  selection : Selection
  /-- The cursor lies within the content. -/
  cursor_le : cursor ≤ content.length
  /-- The selection is in order. -/
  start_le_stop : selection.start ≤ selection.stop
  /-- The selection ends within the content. -/
  stop_le : selection.stop ≤ content.length
  deriving DecidableEq

namespace State

/-- The state in which a buffer is opened, with the cursor at its start. -/
def ofBuffer (content : Buffer) : State where
  content := content
  cursor := 0
  selection := .caret 0
  cursor_le := Nat.zero_le _
  start_le_stop := Nat.le_refl _
  stop_le := Nat.zero_le _

/-- The state with these parts, if they are within bounds. -/
def ofParts (content : Buffer) (cursor : Nat) (selection : Selection) :
    Except BufferError State :=
  if hCursor : content.length < cursor then
    .error (.invalidIndex cursor content.length)
  else if hOrder : selection.stop < selection.start then
    .error (.invalidSelection selection.start selection.stop)
  else if hStop : content.length < selection.stop then
    .error (.invalidIndex selection.stop content.length)
  else
    .ok ⟨content, cursor, selection, Nat.le_of_not_lt hCursor, Nat.le_of_not_lt hOrder,
      Nat.le_of_not_lt hStop⟩

/-- The parts of a state are within bounds. -/
theorem ofParts_self (s : State) : ofParts s.content s.cursor s.selection = .ok s := by
  have h₁ := Nat.not_lt.2 s.cursor_le
  have h₂ := Nat.not_lt.2 s.start_le_stop
  have h₃ := Nat.not_lt.2 s.stop_le
  simp [ofParts, h₁, h₂, h₃]

/-- The number of characters of the content. -/
def length (s : State) : Nat := s.content.length

/-- The state with the cursor at an offset and nothing selected. -/
def withCursor (s : State) (cursor : Nat) : Except BufferError State :=
  ofParts s.content cursor (.caret cursor)

/-- The state with another selection and the same cursor. -/
def withSelection (s : State) (selection : Selection) : Except BufferError State :=
  ofParts s.content s.cursor selection

/-- At least one character is selected. -/
def hasSelection (s : State) : Bool := !s.selection.isCaret

/-- The selected text, if any. -/
def selected? (s : State) : Option Text :=
  if s.hasSelection then some (s.content.between s.selection.start s.selection.stop) else none

end State

end EditScript
