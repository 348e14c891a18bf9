import EditScript.Json.Basic
import EditScript.Settings

/-!
# Settings as JSON

A document names the settings that it changes; the others keep their defaults. When settings are
written, all of them are.
-/

namespace EditScript

/-- The value of a field that may be missing. -/
def Json.orDefault {α : Type} (item? : Json → Option α) (otherwise : α) : Option Json → Option α
  | none => some otherwise
  | some v => item? v

namespace Settings

/-- The display settings as JSON. -/
def Render.toJson (r : Render) : Json :=
  .object [
    Json.member "cursor_marker" (.string r.cursorMarker),
    Json.member "line_number_width" (.nat r.lineNumberWidth)]

/-- The display settings that a JSON value stands for. -/
def Render.ofJson? (v : Json) : Option Render :=
  let base : Render := {}
  match v.fields ["cursor_marker", "line_number_width"] with
  | some [marker, width] => do
    return {
      cursorMarker := ← Json.orDefault Json.text? base.cursorMarker marker
      lineNumberWidth := ← Json.orDefault Json.offset? base.lineNumberWidth width }
  | _ => none

/-- The assistant settings as JSON. -/
def Assist.toJson (a : Assist) : Json :=
  .object [
    Json.member "command" (a.command.elim .null .string),
    Json.member "args" (.array (a.args.map .string)),
    Json.member "timeout_secs" (.nat a.timeoutSeconds),
    Json.member "system_prompt" (a.systemPrompt.elim .null .string),
    Json.member "strip_code_fences" (.bool a.stripCodeFences)]

/-- The assistant settings that a JSON value stands for. -/
def Assist.ofJson? (v : Json) : Option Assist :=
  let base : Assist := {}
  match v.fields ["command", "args", "timeout_secs", "system_prompt", "strip_code_fences"] with
  | some [command, args, timeout, prompt, strip] => do
    return {
      command := ← Json.orDefault (Json.orNull? Json.text?) base.command command
      args := ← Json.orDefault (Json.list? Json.text?) base.args args
      timeoutSeconds := ← Json.orDefault Json.offset? base.timeoutSeconds timeout
      systemPrompt := ← Json.orDefault (Json.orNull? Json.text?) base.systemPrompt prompt
      stripCodeFences := ← Json.orDefault Json.bool? base.stripCodeFences strip }
  | _ => none

/-- The session settings as JSON. -/
def Session.toJson (s : Session) : Json :=
  .object [Json.member "log_capacity" (.nat s.logCapacity)]

/-- The session settings that a JSON value stands for. -/
def Session.ofJson? (v : Json) : Option Session :=
  let base : Session := {}
  match v.fields ["log_capacity"] with
  | some [capacity] => do
    return { logCapacity := ← Json.orDefault Json.offset? base.logCapacity capacity }
  | _ => none

/-- The settings as JSON. -/
def toJson (s : Settings) : Json :=
  .object [
    Json.member "render" s.render.toJson,
    Json.member "assist" s.assist.toJson,
    Json.member "session" s.session.toJson]

/-- The settings that a JSON value stands for. -/
def ofJson? (v : Json) : Option Settings :=
  match v.fields ["render", "assist", "session"] with
  | some [render, assist, session] => do
    return {
      render := ← Json.orDefault Render.ofJson? {} render
      assist := ← Json.orDefault Assist.ofJson? {} assist
      session := ← Json.orDefault Session.ofJson? {} session }
  | _ => none

end Settings

end EditScript
