import EditScript.Assist.Desk
import EditScript.Session

/-!
# Dialogue

A session together with the assistant that helps to edit it.

* `Dialogue.send`: logs an instruction and starts a request that shows the session as it is then.
* `Dialogue.startInSlot`: starts something for the slot, unless the request there is unfinished.
* `Dialogue.ask`: sends a request for the slot.
* `Dialogue.Operation`, `Dialogue.perform`: every operation as a value, and what it does.

Nothing but `Dialogue.send` connects the two: what the assistant answers reaches the session only
through `Session.acceptReply`.
-/

namespace EditScript

open Assist

/-- A session and the requests that were made for it. -/
structure Dialogue where
  /-- The session. -/
  session : Session
  /-- What is fixed for all requests. -/
  assistant : Assistant
  /-- The requests. -/
  desk : Desk

namespace Dialogue

/-- A session without requests. -/
def start (session : Session) (transport : Transport) : Dialogue :=
  ⟨session, .ofSettings session.settings.assist, .fresh transport⟩

/-- The request for an instruction that shows the session as it is. -/
def request (d : Dialogue) (instruction : Text) : Request :=
  .build d.assistant.systemPrompt d.session.context instruction

/-- A change of a dialogue in place, which may be refused. -/
abbrev InPlace (α : Type) := Live.Change Error Dialogue α

/-- Does an operation of the session that is never refused. -/
def onSession {α : Type} (operation : Session → Session.Step α) : InPlace α := fun live =>
  let step := operation live.value.session
  .ok step.answer ⟨{ live.value with session := step.session }, live.events ++ step.events⟩

/-- Logs an instruction and sends a request for it. Gives the number of its task. -/
def send (instruction : Text) : InPlace Nat := do
  onSession fun s => s.recordInstruction instruction
  let request := (← Live.now).request instruction
  Live.update fun d => ((d.desk.spawn request).1, { d with desk := (d.desk.spawn request).2 })

/-- Starts something and puts its task into the slot. Nothing is started while the task there is
unfinished. -/
def startInSlot (start : InPlace Nat) : InPlace Unit := do
  if (← Live.now).desk.isBusy then throw .busy
  let task ← start
  Live.update fun d => ((), { d with desk := { d.desk with slot := some task } })

/-- Sends a request for the slot. -/
def ask (instruction : Text) : InPlace Unit := startInSlot (send instruction)

/-- What can be done in a dialogue. -/
inductive Operation where
  /-- An operation of the session. -/
  | session (op : Session.Operation)
  /-- Starts a request. -/
  | ask (instruction : Text)
  /-- Lets the requests go on. -/
  | tick
  /-- Lets time pass. -/
  | advance (seconds : Nat)
  /-- Calls off the request in the slot. -/
  | cancel
  /-- Takes the request out of the slot. -/
  | take
  /-- Calls off the request that was taken. -/
  | cancelHeld
  /-- Waits for the request in the slot. -/
  | wait
  /-- Waits for the request that was taken. -/
  | waitHeld

/-- What an operation answers. -/
inductive Answer where
  /-- The answer of an operation of the session. -/
  | session (answer : Session.Answer)
  /-- The request is refused. -/
  | refused (error : Error)
  /-- There is nothing to tell. -/
  | done
  /-- There was a request to act on. -/
  | found (present : Bool)
  /-- What became of a request, if there was one. -/
  | result (result : Option Result)

/-- A dialogue after an operation, with the events that announce it. -/
structure Step where
  /-- What the operation answers. -/
  answer : Answer
  /-- The dialogue afterwards. -/
  dialogue : Dialogue
  /-- What the operation announces, in order. -/
  events : List Event

/-- The step of an operation that concerns the requests alone. -/
def atDesk (d : Dialogue) (answer : Answer) (desk : Desk) : Step :=
  ⟨answer, { d with desk := desk }, []⟩

/-- Does one operation. -/
def perform (d : Dialogue) : Operation → Step
  | .session op =>
    let step := d.session.perform op
    ⟨.session step.answer, { d with session := step.session }, step.events⟩
  | .ask instruction =>
    match ask instruction ⟨d, []⟩ with
    | .ok () live => ⟨.done, live.value, live.events⟩
    | .error error live => ⟨.refused error, live.value, live.events⟩
  | .tick => d.atDesk .done (d.desk.tick d.assistant)
  | .advance seconds => d.atDesk .done (d.desk.advance d.assistant seconds)
  | .cancel => d.atDesk (.found (d.desk.cancel d.assistant).1) (d.desk.cancel d.assistant).2
  | .take => d.atDesk (.found d.desk.take.1) d.desk.take.2
  | .cancelHeld =>
    d.atDesk (.found (d.desk.cancelHeld d.assistant).1) (d.desk.cancelHeld d.assistant).2
  | .wait => d.atDesk (.result (d.desk.wait d.assistant).1) (d.desk.wait d.assistant).2
  | .waitHeld => d.atDesk (.result (d.desk.waitHeld d.assistant).1) (d.desk.waitHeld d.assistant).2

end Dialogue

end EditScript
