import EditScript.Command.Basic
import EditScript.Text.Blank

/-!
# Reading command lines

A command line is a keyword and its arguments, with any blanks around and between them.

* `Command.parse`: the command of a line, or why there is none. It looks at the line alone:
  whether offsets fit a buffer is decided when the command is executed.
* `Command.unquote`: a text without the quotation marks around it.
-/

namespace EditScript.Command

/-- The error for arguments that the keyword does not take. -/
def badArguments (keyword : Keyword) (args : Text) : CommandError :=
  .invalidArguments keyword.name args keyword.expected

/-- The error for a keyword without arguments. -/
def noArguments (keyword : Keyword) : CommandError :=
  .missingArgument keyword.name keyword.expected

/-- A text that starts and ends with different quotation marks, without them; any other text as
it is. -/
def unquote (args : Text) : Text :=
  if 2 ≤ args.length ∧ args.head? = some '"' ∧ args.getLast? = some '"' then
    args.tail.dropLast
  else args

/-- The command of a `MOVE` line: one offset. -/
def parseMove (args : Text) : Except CommandError Command :=
  match Text.words args with
  | [] => .error (noArguments .move)
  | [word] =>
    match Text.offset? word with
    | some position => .ok (.move position)
    | none => .error (badArguments .move args)
  | _ => .error (badArguments .move args)

/-- The command of a `SELECT` line: two offsets, in either order. -/
def parseSelect (args : Text) : Except CommandError Command :=
  match Text.words args with
  | [] => .error (noArguments .select)
  | [first, second] =>
    match Text.offset? first, Text.offset? second with
    | some start, some stop => .ok (.select start stop)
    | _, _ => .error (badArguments .select args)
  | _ => .error (badArguments .select args)

/-- The command of an `INSERT` line: a text with at least one character. -/
def parseInsert (args : Text) : Except CommandError Command :=
  if unquote args = [] then .error (noArguments .insert) else .ok (.insert (unquote args))

/-- The command that a line stands for. What follows `DELETE` is ignored. -/
def parse (line : Text) : Except CommandError Command :=
  let body := Text.trim line
  if body = [] then .error (.invalidFormat "empty command".toList)
  else
    let (word, rest) := Text.splitBlank body
    let args := Text.trimStart rest
    match Keyword.ofWord? word with
    | some .move => parseMove args
    | some .select => parseSelect args
    | some .insert => parseInsert args
    | some .delete => .ok .delete
    | none => .error (.unknownCommand word)

end EditScript.Command
