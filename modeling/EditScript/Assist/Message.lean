import EditScript.Text.Basic

/-!
# Requests and replies

What is sent to the assistant and what comes back.

* `Reply.result`: the text of a reply, or the reason why there is none.
* `Error`: what can become of a request.
-/

namespace EditScript.Assist

/-- Who a message is from. -/
inductive Role where
  | system
  | user
  deriving DecidableEq

/-- One message of a request. -/
structure Message where
  /-- Who it is from. -/
  role : Role
  /-- What it says. -/
  content : Text
  deriving DecidableEq

/-- What is sent to the assistant. -/
structure Request where
  /-- The messages, in order. -/
  messages : List Message
  deriving DecidableEq

/-- What the assistant answers. -/
structure Reply where
  /-- The request could be answered. -/
  success : Bool
  /-- The answer. -/
  text : Option Text
  /-- Why there is no answer. -/
  error : Option Text
  deriving DecidableEq

/-- Why a request has no answer. -/
inductive Error where
  /-- Another request is in flight. -/
  | busy
  /-- The settings name no program. -/
  | notConfigured
  /-- The program could not be started. -/
  | notStarted (command : Text) (cause : String)
  /-- The program, or the script that stands for it, did not answer. -/
  | communication (detail : Text)
  /-- The assistant declined. -/
  | rejected (reason : Text)
  /-- The answer did not come in time. -/
  | timeout (seconds : Nat)
  /-- The request was called off. -/
  | cancelled
  /-- The request could not be handed over, or the answer not taken. -/
  | io (cause : String)
  /-- The answer is no reply. -/
  | json
  deriving DecidableEq

/-- A time span as the user reads it. -/
def duration (seconds : Nat) : String := if seconds = 0 then "0ns" else s!"{seconds}s"

/-- What the user reads about the error. -/
def Error.message : Error → String
  | busy => "An assistant request is already in flight"
  | notConfigured => "No assistant command configured"
  | notStarted command cause => s!"Failed to start '{String.ofList command}': {cause}"
  | communication detail => s!"Communication error: {String.ofList detail}"
  | rejected reason => s!"Assistant reported failure: {String.ofList reason}"
  | timeout seconds => s!"Timed out after {duration seconds} waiting for the assistant"
  | cancelled => "Request cancelled"
  | io cause => s!"IO error: {cause}"
  | json => "JSON error: not a reply"

/-- The text of a reply; a reply without one is empty. -/
def Reply.result (r : Reply) : Except Error Text :=
  if r.success then .ok (r.text.getD [])
  else .error (.rejected (r.error.getD "assistant reported failure".toList))

end EditScript.Assist
