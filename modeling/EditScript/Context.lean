import EditScript.Buffer.Position
import EditScript.Buffer.State
import EditScript.Settings
import EditScript.Text.Quoted

/-!
# Context

The text block that shows an editor state to the assistant: where the cursor is, what is
selected, and the numbered lines from which offsets can be computed.

* `State.context`: the block.
* `State.currentLine`: the line of the cursor, with a mark where the cursor is.
* `Context.row`: a line with its number. A number that is wider than the setting is not cut.
-/

namespace EditScript

namespace Context

/-- A row of the listing. -/
def row (width number : Nat) (line : Text) : Text :=
  List.leftpad width ' ' (Text.decimal number) ++ " | ".toList ++ line ++ ['\n']

/-- The lines of a text, each as a row, numbered from one. -/
def listing (width : Nat) (lines : List Text) : Text :=
  (lines.zipIdx 1).flatMap fun entry => row width entry.2 entry.1

/-- The line that tells where the cursor is. -/
def cursorLine (position : Position) (cursor : Nat) : Text :=
  "Cursor: line ".toList ++ Text.decimal (position.line + 1) ++ ", column ".toList ++
    Text.decimal position.column ++ " (absolute offset ".toList ++ Text.decimal cursor ++
    ")\n".toList

/-- The line that tells what is selected. -/
def selectionLine (selection : Selection) (text : Text) : Text :=
  "Selection: ".toList ++ Text.decimal selection.start ++ '-' :: Text.decimal selection.stop ++
    " (".toList ++ Text.decimal selection.length ++ " chars): ".toList ++ Text.quoted text ++
    ['\n']

end Context

namespace State

/-- The position of the cursor. -/
def position (s : State) : Position := Text.endPosition (s.content.chars.take s.cursor)

/-- The line that the cursor is in. -/
def currentLine (s : State) : Text := s.content.lines.getD s.position.line []

/-- The current line with a mark at the cursor. -/
def markedLine (s : State) (marker : Text) : Text :=
  s.currentLine.take s.position.column ++ marker ++ s.currentLine.drop s.position.column

/-- The state as the assistant reads it. -/
def context (s : State) (settings : Settings.Render) : Text :=
  "Total lines: ".toList ++ Text.decimal s.content.lineCount ++ ['\n'] ++
    Context.cursorLine s.position s.cursor ++
    (match s.selected? with
      | some text => Context.selectionLine s.selection text
      | none => []) ++
    "Current line: ".toList ++ s.markedLine settings.cursorMarker ++ ['\n'] ++
    "Content:\n".toList ++ Context.listing settings.lineNumberWidth s.content.lines

end State

end EditScript
