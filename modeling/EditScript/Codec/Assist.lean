import EditScript.Assist.Message
import EditScript.Codec.Settings

/-!
# Requests and replies as JSON

A reply may leave out its text and its error, or hold `null` for them; when it is written, what is
absent is left out.
-/

namespace EditScript.Assist

/-- The name of the role. -/
def Role.name : Role → String
  | system => "system"
  | user => "user"

/-- The role with a name. -/
def Role.ofName? (name : Text) : Option Role :=
  [system, user].find? fun r => r.name.toList = name

/-- The role that a JSON value stands for: its name, or an object that holds `null` under it. -/
def Role.ofJson? : Json → Option Role
  | .string name => ofName? name
  | .object [(some name, .null)] => ofName? name
  | _ => none

/-- The message as JSON. -/
def Message.toJson (m : Message) : Json :=
  .object [Json.member "role" (.ofString m.role.name), Json.member "content" (.string m.content)]

/-- The message that a JSON value stands for. -/
def Message.ofJson? (v : Json) : Option Message :=
  match v.fields ["role", "content"] with
  | some [some role, some content] => do return ⟨← Role.ofJson? role, ← content.text?⟩
  | _ => none

/-- The request as JSON. -/
def Request.toJson (r : Request) : Json :=
  .object [Json.member "messages" (.array (r.messages.map Message.toJson))]

/-- The request that a JSON value stands for. -/
def Request.ofJson? (v : Json) : Option Request :=
  match v.fields ["messages"] with
  | some [some messages] => (messages.list? Message.ofJson?).map Request.mk
  | _ => none

/-- The reply as JSON. -/
def Reply.toJson (r : Reply) : Json :=
  .object (Json.member "success" (.bool r.success) ::
    (r.text.map fun t => Json.member "text" (.string t)).toList ++
    (r.error.map fun t => Json.member "error" (.string t)).toList)

/-- The reply that a JSON value stands for. -/
def Reply.ofJson? (v : Json) : Option Reply :=
  match v.fields ["success", "text", "error"] with
  | some [some success, text, error] => do
    return ⟨← success.bool?, ← Json.orDefault (Json.orNull? Json.text?) none text,
      ← Json.orDefault (Json.orNull? Json.text?) none error⟩
  | _ => none

end EditScript.Assist
