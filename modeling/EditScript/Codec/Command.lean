import EditScript.Codec.State
import EditScript.Sequence

/-!
# Commands and outcomes as JSON

A command is a record whose field `op` names it. Errors and outcomes are only written.

* `Command.ofJson?`: every part of the value has to be readable, also those that the command does
  not use.
* `Outcome.toJson`: the parts that the outcome does not carry are left out.
-/

namespace EditScript

namespace Command

/-- The value of the field `op`. -/
def tag : Command → String
  | move _ => "move"
  | select _ _ => "select"
  | insert _ => "insert"
  | delete => "delete"

/-- The command as JSON. -/
def toJson (c : Command) : Json :=
  .object (Json.member "op" (.ofString c.tag) ::
    match c with
    | move position => [Json.member "position" (.nat position)]
    | select start stop => [Json.member "start" (.nat start), Json.member "end" (.nat stop)]
    | insert text => [Json.member "text" (.string text)]
    | delete => [])

/-- The command with a tag and a record of arguments. -/
def ofTagged? (tag : Text) (arguments : Json) : Option Command :=
  if tag = "move".toList then
    match arguments.fields ["position"] with
    | some [some position] => return .move (← position.offset?)
    | _ => none
  else if tag = "select".toList then
    match arguments.fields ["start", "end"] with
    | some [some start, some stop] => return .select (← start.offset?) (← stop.offset?)
    | _ => none
  else if tag = "insert".toList then
    match arguments.fields ["text"] with
    | some [some text] => return .insert (← text.text?)
    | _ => none
  else if tag = "delete".toList then
    (arguments.fields []).map fun _ => .delete
  else none

/-- The command that a JSON value stands for: an object with the tag among its members, or an
array with the tag first. -/
def ofJson? (v : Json) : Option Command :=
  if v.isStrict then
    match v with
    | .object members => do
      match v.fields ["op"] with
      | some [some tag] => ofTagged? (← tag.text?) (.object members)
      | _ => none
    | .array (tag :: arguments) => do ofTagged? (← tag.text?) (.array arguments)
    | _ => none
  else none

end Command

/-- The name of the kind of error. -/
def BufferError.kind : BufferError → String
  | invalidIndex _ _ => "InvalidCharIndex"
  | invalidSelection _ _ => "InvalidSelection"

/-- The error as JSON. -/
def BufferError.toJson (e : BufferError) : Json :=
  .object (Json.member "reason" (.ofString e.kind) ::
    match e with
    | invalidIndex index length =>
      [Json.member "index" (.nat index), Json.member "len" (.nat length)]
    | invalidSelection start stop =>
      [Json.member "start" (.nat start), Json.member "end" (.nat stop)])

namespace CommandError

/-- The name of the kind of error. -/
def kind : CommandError → String
  | invalidFormat _ => "InvalidCommandFormat"
  | unknownCommand _ => "UnknownCommand"
  | missingArgument _ _ => "MissingArgument"
  | invalidArguments _ _ _ => "InvalidArguments"
  | positionOutOfRange _ _ => "PositionOutOfRange"
  | invalidRange _ _ _ => "InvalidRange"
  | nothingToDelete => "NothingToDelete"
  | buffer _ => "Buffer"

/-- What the error tells besides its kind. -/
def detail? : CommandError → Option Json
  | invalidFormat reason => some (.string reason)
  | unknownCommand word => some (.string word)
  | missingArgument command expected =>
    some (.object [
      Json.member "command" (.ofString command), Json.member "expected" (.ofString expected)])
  | invalidArguments command args expected =>
    some (.object [
      Json.member "command" (.ofString command), Json.member "args" (.string args),
      Json.member "expected" (.ofString expected)])
  | positionOutOfRange position length =>
    some (.object [Json.member "position" (.nat position), Json.member "len" (.nat length)])
  | invalidRange start stop length =>
    some (.object [
      Json.member "start" (.nat start), Json.member "end" (.nat stop),
      Json.member "len" (.nat length)])
  | nothingToDelete => none
  | buffer error => some error.toJson

/-- The error as JSON. -/
def toJson (e : CommandError) : Json :=
  .object (Json.member "kind" (.ofString e.kind) :: (e.detail?.map (Json.member "detail")).toList)

end CommandError

/-- The outcome as JSON. -/
def Outcome.toJson (o : Outcome) : Json :=
  .object ([
      Json.member "success" (.bool o.success),
      Json.member "command" (o.command.elim .null Command.toJson),
      Json.member "message" (.ofString o.message)] ++
    (o.error.map fun e => Json.member "error" e.toJson).toList ++
    (o.content.map fun b => Json.member "content" b.toJson).toList ++
    (o.cursor.map fun n => Json.member "cursor" (.nat n)).toList ++
    (o.selection.map fun s => Json.member "selection" s.toJson).toList)

end EditScript
