import EditScript.Text.Blank

/-!
# Command lines in files and replies

* `Script.lines`: the command lines of a script file. A line whose first character that is not
  blank is a number sign is a comment.
* `Script.ofReply`: the command lines of a reply. A line that starts with three backticks fences
  a block of code, and is left out if the settings say so.

In both, lines without any character but blanks are left out.
-/

namespace EditScript.Script

/-- The line of a script file is a command line. -/
def isCommandLine (line : Text) : Bool :=
  let body := Text.trimStart line
  body ≠ [] && body.head? ≠ some '#'

/-- The command lines of a script file, as they stand. -/
def lines (t : Text) : List Text := (Text.paragraphs t).filter isCommandLine

/-- What opens and closes a block of code: three backticks. -/
def fence : Text := List.replicate 3 (Char.ofNat 0x60)

/-- The line opens or closes a block of code. -/
def isFence (line : Text) : Bool := fence.isPrefixOf line

/-- The command lines of a reply, without the blanks around them. -/
def ofReply (strip : Bool) (t : Text) : List Text :=
  ((Text.paragraphs t).map Text.trim).filter fun line => line ≠ [] && !(strip && isFence line)

end EditScript.Script
