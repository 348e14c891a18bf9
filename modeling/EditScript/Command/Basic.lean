import EditScript.Buffer.Basic

/-!
# Commands

The four commands that change an editor state, their written form, and what can go wrong with
them.

* `Command.render`: the canonical line of a command. Inserted text stands between quotation
  marks, so that blanks around it are kept; there are no escape sequences.
* `CommandError`: why a line is not a command, or why a command cannot be applied.
-/

namespace EditScript

/-- The first word of a command line. -/
inductive Keyword where
  | move
  | select
  | insert
  | delete
  deriving DecidableEq

/-- The keyword in capital letters. -/
def Keyword.name : Keyword → String
  | .move => "MOVE"
  | .select => "SELECT"
  | .insert => "INSERT"
  | .delete => "DELETE"

/-- What the arguments of a keyword have to be. -/
def Keyword.expected : Keyword → String
  | .move => "one non-negative offset"
  | .select => "two non-negative offsets: start end"
  | .insert => "text to insert"
  | .delete => "nothing"

/-- The keyword that a word spells in any case of its ASCII letters. -/
def Keyword.ofWord? (word : Text) : Option Keyword :=
  [move, select, insert, delete].find? fun k => k.name.toList = Text.upper word

/-- A change of an editor state. -/
inductive Command where
  /-- Puts the cursor at an offset and selects nothing. -/
  | move (position : Nat)
  /-- Selects the characters from `start` up to `stop`. -/
  | select (start stop : Nat)
  /-- Puts a text in place of the selection, or at the cursor. -/
  | insert (text : Text)
  /-- Removes the selection, or the character before the cursor. -/
  | delete
  deriving DecidableEq

namespace Command

/-- The keyword that the command is written with. -/
def keyword : Command → Keyword
  | move _ => .move
  | select _ _ => .select
  | insert _ => .insert
  | delete => .delete

/-- The canonical line of the command. -/
def render : Command → Text
  | move position => "MOVE ".toList ++ Text.decimal position
  | select start stop => "SELECT ".toList ++ Text.decimal start ++ ' ' :: Text.decimal stop
  | insert text => "INSERT \"".toList ++ text ++ ['"']
  | delete => "DELETE".toList

end Command

/-- Why a line is no command, or why a command does not apply. -/
inductive CommandError where
  /-- The line has no first word. -/
  | invalidFormat (reason : Text)
  /-- The first word is no keyword. -/
  | unknownCommand (word : Text)
  /-- The keyword stands alone. -/
  | missingArgument (command expected : String)
  /-- What follows the keyword is not what it expects. -/
  | invalidArguments (command : String) (args : Text) (expected : String)
  /-- The offset lies beyond the end of the buffer. -/
  | positionOutOfRange (position length : Nat)
  /-- The range is reversed, or ends beyond the end of the buffer. -/
  | invalidRange (start stop length : Nat)
  /-- Nothing is selected and no character stands before the cursor. -/
  | nothingToDelete
  /-- The buffer refused an edit. -/
  | buffer (error : BufferError)
  deriving DecidableEq

/-- What the user reads about the error. -/
def CommandError.message : CommandError → String
  | invalidFormat reason => s!"Invalid command format: {String.ofList reason}"
  | unknownCommand word => s!"Unknown command: {String.ofList word}"
  | missingArgument command expected => s!"{command} requires {expected}"
  | invalidArguments command args expected =>
    s!"Invalid arguments for {command}: '{String.ofList args}' (expected {expected})"
  | positionOutOfRange position length => s!"Position {position} is out of range (0-{length})"
  | invalidRange start stop length => s!"Invalid range {start}-{stop} (0-{length})"
  | nothingToDelete => "Nothing to delete: no selection and cursor at start of buffer"
  | buffer error => s!"Buffer error: {error.message}"

end EditScript
