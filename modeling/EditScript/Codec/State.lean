import EditScript.Buffer.Position
import EditScript.Buffer.State
import EditScript.Json.Basic

/-!
# Editor states as JSON

Buffers, selections, positions and states. A buffer is its text; the others are records.

* `State.ofJson?`: a document of the right shape whose parts break a bound gives the error that
  names the bound.
-/

namespace EditScript

/-- The buffer as JSON. -/
def Buffer.toJson (b : Buffer) : Json := .string b.chars

/-- The buffer that a JSON value stands for. -/
def Buffer.ofJson? (v : Json) : Option Buffer := v.text?.map Buffer.mk

/-- The selection as JSON. -/
def Selection.toJson (s : Selection) : Json :=
  .object [Json.member "start" (.nat s.start), Json.member "end" (.nat s.stop)]

/-- The selection that a JSON value stands for. It may be reversed. -/
def Selection.ofJson? (v : Json) : Option Selection :=
  match v.fields ["start", "end"] with
  | some [some start, some stop] => do return ⟨← start.offset?, ← stop.offset?⟩
  | _ => none

/-- The position as JSON. -/
def Position.toJson (p : Position) : Json :=
  .object [Json.member "line" (.nat p.line), Json.member "column" (.nat p.column)]

/-- The position that a JSON value stands for. -/
def Position.ofJson? (v : Json) : Option Position :=
  match v.fields ["line", "column"] with
  | some [some line, some column] => do return ⟨← line.offset?, ← column.offset?⟩
  | _ => none

/-- The state as JSON. -/
def State.toJson (s : State) : Json :=
  .object [
    Json.member "content" s.content.toJson,
    Json.member "cursor" (.nat s.cursor),
    Json.member "selection" s.selection.toJson]

/-- The state that a JSON value stands for, or the bound that its parts break. -/
def State.ofJson? (v : Json) : Option (Except BufferError State) :=
  match v.fields ["content", "cursor", "selection"] with
  | some [some content, some cursor, some selection] => do
    return State.ofParts (← Buffer.ofJson? content) (← cursor.offset?)
      (← Selection.ofJson? selection)
  | _ => none

end EditScript
