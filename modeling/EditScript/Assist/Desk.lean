import EditScript.Assist.Prompt
import EditScript.Script
import EditScript.Settings

/-!
# Requests in flight

Each request is a task. The desk keeps all tasks, a slot for the one that the user waits for, and
those that have been taken out of the slot.

* `Desk.spawn`: starts a task. `Desk.isBusy` tells whether the task in the slot is still unfinished.
* `Desk.poll`, `Desk.tick`: let one task go on as far as it can, or every task. Tasks go on in the
  order they were started in.
* `Desk.cancel`, `Desk.cancelHeld`: call off the task in the slot, or the one that was taken last.
* `Desk.wait`, `Desk.waitHeld`: take a task and let time pass until it is finished.

A task that is called off ends when it would go on, and not before. Time passes only in
`Desk.advance` and in waiting.
-/

namespace EditScript.Assist

/-- What becomes of a request. -/
abbrev Result := Except Error (List Text)

/-- How requests are answered. -/
structure Transport where
  /-- The replies that are left, for one request each; absent if no request is answered at once. -/
  replies : Option (List Reply)
  /-- The requests that were answered, in order. -/
  sent : List Request

namespace Transport

/-- The transport that gives replies in order. -/
def scripted (replies : List Reply) : Transport := ⟨some replies, []⟩

/-- The transport that answers no request by itself. -/
def silent : Transport := ⟨none, []⟩

/-- Sends a request; nothing comes back from a silent transport. -/
def send (t : Transport) (request : Request) : Option (Except Error Reply) × Transport :=
  match t.replies with
  | none => (none, t)
  | some [] =>
    (some (.error (.communication "no scripted reply left".toList)),
      { t with sent := t.sent ++ [request] })
  | some (reply :: rest) => (some (.ok reply), ⟨some rest, t.sent ++ [request]⟩)

end Transport

/-- What the assistant settings fix for all requests. -/
structure Assistant where
  /-- What the assistant is told about the commands. -/
  systemPrompt : Text
  /-- How long to wait for an answer. -/
  timeoutSeconds : Nat
  /-- Lines that fence a block of code are left out of an answer. -/
  stripCodeFences : Bool

namespace Assistant

/-- The assistant of the settings. -/
def ofSettings (s : Settings.Assist) : Assistant :=
  ⟨s.systemPrompt.getD instructions, s.timeoutSeconds, s.stripCodeFences⟩

/-- The command lines of an answer. -/
def read (a : Assistant) (answer : Except Error Reply) : Result := do
  let reply ← answer
  let text ← reply.result
  return Script.ofReply a.stripCodeFences text

/-- Seconds in thirty years: how long a wait lasts whose end no clock can show. -/
def farFuture : Nat := 30 * 365 * 86400

/-- When a wait that begins at a time ends. A clock shows fewer seconds than
`Text.signedLimit`. -/
def deadline (a : Assistant) (clock : Nat) : Nat :=
  clock + if a.timeoutSeconds < Text.signedLimit then a.timeoutSeconds else farFuture

end Assistant

/-- How far a task has come. -/
inductive Progress where
  /-- It has not run yet. -/
  | queued
  /-- It has sent its request and waits for the answer until a time. -/
  | waiting (deadline : Nat)
  /-- The answer has come, and the task has not run since. -/
  | answered (answer : Except Error Reply)
  /-- It has been called off and has not run since. -/
  | calledOff
  /-- It has ended. -/
  | finished (result : Result)

/-- A request and how far it has come. -/
structure Task where
  /-- The request. -/
  request : Request
  /-- How far it has come. -/
  progress : Progress

namespace Task

/-- The task has ended. -/
def isFinished (t : Task) : Bool :=
  match t.progress with
  | .finished _ => true
  | _ => false

/-- The task has ended with a result. -/
def finish (t : Task) (result : Result) : Task := { t with progress := .finished result }

/-- The task waits until a deadline, or has ended if that has passed. -/
def await (a : Assistant) (clock deadline : Nat) (t : Task) : Task :=
  if deadline ≤ clock then t.finish (.error (.timeout a.timeoutSeconds))
  else { t with progress := .waiting deadline }

/-- Lets the task go on. An answer that is there is taken even if no time is left. -/
def poll (a : Assistant) (clock : Nat) (t : Task) (transport : Transport) : Task × Transport :=
  match t.progress with
  | .finished _ => (t, transport)
  | .calledOff => (t.finish (.error .cancelled), transport)
  | .answered answer => (t.finish (a.read answer), transport)
  | .waiting deadline => (t.await a clock deadline, transport)
  | .queued =>
    match transport.send t.request with
    | (some answer, transport) => (t.finish (a.read answer), transport)
    | (none, transport) => (t.await a clock (a.deadline clock), transport)

/-- Lets several tasks go on, one after the other. -/
def pollAll (a : Assistant) (clock : Nat) : List Task → Transport → List Task × Transport
  | [], transport => ([], transport)
  | t :: rest, transport =>
    let (t, transport) := t.poll a clock transport
    let (rest, transport) := pollAll a clock rest transport
    (t :: rest, transport)

/-- An answer comes for the task, if it waits for one. -/
def receive (answer : Except Error Reply) (t : Task) : Task :=
  match t.progress with
  | .waiting _ => { t with progress := .answered answer }
  | _ => t

/-- Calls off the task, unless it has ended. -/
def abort (t : Task) : Task := if t.isFinished then t else { t with progress := .calledOff }

end Task

/-- All requests of an assistant. -/
structure Desk where
  /-- The time in seconds. -/
  clock : Nat
  /-- How requests are answered. -/
  transport : Transport
  /-- All tasks, in the order they were started in. -/
  tasks : List Task
  /-- The number of the task in the slot. -/
  slot : Option Nat
  /-- The number of the task that is being waited for through the slot. Until that is over, the slot
  is empty and nothing else can be done with it. -/
  awaited : Option Nat
  /-- The numbers of the tasks that were taken out of the slot, the last first. -/
  taken : List Nat

namespace Desk

/-- A desk without tasks. -/
def fresh (transport : Transport) : Desk := ⟨0, transport, [], none, none, []⟩

/-- The number of the task that was taken out of the slot last. -/
def held (d : Desk) : Option Nat := d.taken.head?

/-- The task has ended. -/
def isFinished (d : Desk) (task : Nat) : Bool := (d.tasks[task]?).all Task.isFinished

/-- The task in the slot has not ended. -/
def isBusy (d : Desk) : Bool := d.slot.any fun task => !d.isFinished task

/-- Starts a task for a request, and gives its number. -/
def spawn (d : Desk) (request : Request) : Nat × Desk :=
  (d.tasks.length, { d with tasks := d.tasks ++ [⟨request, .queued⟩] })

/-- Lets one task go on. -/
def poll (a : Assistant) (d : Desk) (task : Nat) : Desk :=
  match d.tasks[task]? with
  | none => d
  | some t =>
    let (t, transport) := t.poll a d.clock d.transport
    { d with tasks := d.tasks.set task t, transport := transport }

/-- Lets every task go on. -/
def tick (a : Assistant) (d : Desk) : Desk :=
  let (tasks, transport) := Task.pollAll a d.clock d.tasks d.transport
  { d with tasks := tasks, transport := transport }

/-- Lets time pass, and nothing else happen. -/
def pass (d : Desk) (seconds : Nat) : Desk := { d with clock := d.clock + seconds }

/-- Lets time pass, and then every task go on. -/
def advance (a : Assistant) (d : Desk) (seconds : Nat) : Desk := (d.pass seconds).tick a

/-- An answer comes for a task. -/
def receive (d : Desk) (task : Nat) (answer : Except Error Reply) : Desk :=
  { d with tasks := d.tasks.modify task (Task.receive answer) }

/-- Calls off a task. -/
def abort (d : Desk) (task : Nat) : Desk := { d with tasks := d.tasks.modify task Task.abort }

/-- Calls off the task in the slot, if there is one. -/
def abortSlot (d : Desk) : Desk := d.slot.elim d d.abort

/-- Calls off the task in the slot, and tells whether there is one. -/
def cancel (a : Assistant) (d : Desk) : Bool × Desk := (d.slot.isSome, d.abortSlot.tick a)

/-- Takes the task out of the slot. -/
def takeSlot (d : Desk) : Desk := { d with slot := none, taken := d.slot.toList ++ d.taken }

/-- Lets go of a task that was taken. It goes on, but cannot be waited for any more. -/
def letGo (d : Desk) (task : Nat) : Desk := { d with taken := d.taken.erase task }

/-- Takes the task out of the slot, and tells whether there is one. It takes the place of those
that were taken before. -/
def take (d : Desk) : Bool × Desk := (d.slot.isSome, { d with taken := [] }.takeSlot)

/-- Calls off the task that was taken, and tells whether there is one. -/
def cancelHeld (a : Assistant) (d : Desk) : Bool × Desk :=
  (d.held.isSome, (d.held.elim d d.abort).tick a)

/-- Lets time pass until a task has ended; none if it has ended before. -/
def finish (a : Assistant) (d : Desk) (task : Nat) : Desk :=
  if d.isFinished task then d
  else
    let d := d.tick a
    match (d.tasks[task]?).map Task.progress with
    | some (.waiting deadline) => d.advance a (deadline - d.clock)
    | _ => d

/-- What became of a task that has ended. -/
def result? (d : Desk) (task : Nat) : Option Result :=
  match (d.tasks[task]?).map Task.progress with
  | some (.finished result) => some result
  | _ => none

/-- Waits for the task in the slot and takes it out. -/
def wait (a : Assistant) (d : Desk) : Option Result × Desk :=
  match d.slot with
  | none => (none, d)
  | some task =>
    let d := { d with slot := none }.finish a task
    (d.result? task, d)

/-- Waits for the task that was taken, and puts it away. -/
def waitHeld (a : Assistant) (d : Desk) : Option Result × Desk :=
  match d.held with
  | none => (none, d)
  | some task =>
    let d := (d.letGo task).finish a task
    (d.result? task, d)

end Desk

end EditScript.Assist
