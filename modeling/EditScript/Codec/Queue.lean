import EditScript.Codec.Command
import EditScript.Json.Token
import EditScript.Log

/-!
# Queues, traces and logs as JSON

* `LineId.ofText?`: a UUID as thirty-two hexadecimal digits, hyphenated, in braces, or as a URN.
* `Queue.ofJson?`: a queue may hold several lines with one id.
* `Sequence.report`: what a run tells, as one document.
-/

namespace EditScript

namespace LineId

/-- The UUID that hexadecimal digits of either case stand for. -/
def ofHex? (digits : Text) : Option LineId := do
  return uuid (.ofNat 128
    (← digits.foldlM (fun n c => do return n * 16 + (← Json.Token.hexValue c)) 0))

/-- The UUID with hyphens between its groups of digits. -/
def ofHyphenated? (t : Text) : Option LineId :=
  let pieces := t.splitOn '-'
  if pieces.map List.length = groups then ofHex? pieces.flatten else none

/-- The UUID that a text stands for. -/
def ofText? (t : Text) : Option LineId :=
  match t.length with
  | 32 => ofHex? t
  | 36 => ofHyphenated? t
  | 38 =>
    if t.head? = some '\x7b' ∧ t.getLast? = some '\x7d' then ofHyphenated? t.tail.dropLast else none
  | 45 => if "urn:uuid:".toList.isPrefixOf t then ofHyphenated? (t.drop 9) else none
  | _ => none

/-- The id as JSON. -/
def toJson (id : LineId) : Json := .ofString id.display

/-- The id that a JSON value stands for. -/
def ofJson? (v : Json) : Option LineId := do ofText? (← v.text?)

end LineId

/-- The line as JSON. -/
def Line.toJson (l : Line) : Json :=
  .object [
    Json.member "id" l.id.toJson,
    Json.member "text" (.string l.text),
    Json.member "executed" (.bool l.executed)]

/-- The line that a JSON value stands for. -/
def Line.ofJson? (v : Json) : Option Line :=
  match v.fields ["id", "text", "executed"] with
  | some [some id, some text, some executed] => do
    return ⟨← LineId.ofJson? id, ← text.text?, ← executed.bool?⟩
  | _ => none

/-- The queue as JSON. -/
def Queue.toJson (q : Queue) : Json :=
  .object [Json.member "lines" (.array (q.lines.map Line.toJson))]

/-- The queue that a JSON value stands for. -/
def Queue.ofJson? (v : Json) : Option Queue :=
  match v.fields ["lines"] with
  | some [some lines] => (lines.list? Line.ofJson?).map Queue.mk
  | _ => none

/-- The entry of a trace as JSON. -/
def TraceEntry.toJson (e : TraceEntry) : Json :=
  .object [
    Json.member "line" e.line.toJson,
    Json.member "text" (.string e.text),
    Json.member "outcome" e.outcome.toJson]

/-- A trace and the state after it, as JSON. -/
def Sequence.report (r : Sequence) : Json :=
  .object [
    Json.member "final_state" r.final.toJson,
    Json.member "trace" (.array (r.trace.map TraceEntry.toJson))]

/-- The name of the kind of entry. -/
def Log.Kind.name : Log.Kind → String
  | instruction => "instruction"
  | command => "command"
  | assistReply => "assist_reply"
  | assistError => "assist_error"

/-- The kind of entry with a name. -/
def Log.Kind.ofName? (name : Text) : Option Log.Kind :=
  [instruction, command, assistReply, assistError].find? fun k => k.name.toList = name

/-- The entry of a log as JSON. -/
def Log.Entry.toJson (e : Log.Entry) : Json :=
  .object [
    Json.member "kind" (.ofString e.kind.name),
    Json.member "success" (.bool e.success),
    Json.member "message" (.ofString e.message)]

end EditScript
