import EditScript.Text.Basic

/-!
# Settings

What the user may configure, in three groups. Every value has a default, so that a document need
only name what it changes.
-/

namespace EditScript

namespace Settings

/-- How an editor state is shown. -/
structure Render where
  /-- The text that marks the cursor in the current line. -/
  cursorMarker : Text := ['|']
  /-- The width that line numbers are padded to. -/
  lineNumberWidth : Nat := 4
  deriving DecidableEq

/-- How the assistant is reached. -/
structure Assist where
  /-- The program that answers requests. -/
  command : Option Text := none
  /-- The arguments of the program. -/
  args : List Text := []
  /-- How long to wait for an answer. -/
  timeoutSeconds : Nat := 60
  /-- What the assistant is told instead of the built-in instructions. -/
  systemPrompt : Option Text := none
  /-- Lines that start with three backticks are left out of an answer. -/
  stripCodeFences : Bool := true
  deriving DecidableEq

/-- What a session keeps. -/
structure Session where
  /-- The number of entries in the activity log; zero is taken as one. -/
  logCapacity : Nat := 500
  deriving DecidableEq

end Settings

/-- All settings. -/
structure Settings where
  /-- How an editor state is shown. -/
  render : Settings.Render := {}
  /-- How the assistant is reached. -/
  assist : Settings.Assist := {}
  /-- What a session keeps. -/
  session : Settings.Session := {}
  deriving DecidableEq

end EditScript
