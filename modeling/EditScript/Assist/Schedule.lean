import EditScript.Assist.Dialogue

/-!
# Schedules

A dialogue one action at a time. The user and the tasks act in whatever order they come to it.

* `Dialogue.Action`: the least that can happen. At most one task goes on, and time passes only in
  the action that says so.
* `Dialogue.act`: what an action does. A task that is called off ends only when it would go on, and
  waiting for a task takes as many actions as it takes the task to end.
* `Dialogue.after`: the dialogue after several actions.

While a task is being waited for through the slot, the slot is not there for anything else.
-/

namespace EditScript

open Assist

namespace Dialogue

/-- The least that can happen in a dialogue. -/
inductive Action where
  /-- An operation of the session. -/
  | edit (op : Session.Operation)
  /-- Starts a request. -/
  | ask (instruction : Text)
  /-- Lets one task go on. -/
  | poll (task : Nat)
  /-- An answer comes for a task that waits for one. -/
  | receive (task : Nat) (answer : Except Error Reply)
  /-- Lets time pass. -/
  | pass (seconds : Nat)
  /-- Calls off the request in the slot. -/
  | cancel
  /-- Calls off a request without the slot, as whoever has taken it or was given the means can. -/
  | cancelTask (task : Nat)
  /-- Takes the request out of the slot. -/
  | take
  /-- Lets go of a request that was taken. -/
  | letGo (task : Nat)
  /-- Begins to wait for the request in the slot, or goes on waiting for it. -/
  | wait
  /-- Waits for a request that was taken. -/
  | waitTaken (task : Nat)

/-- A dialogue after an action, with the events that announce it. -/
structure Turn where
  /-- What is answered; absent if the caller has to come again. -/
  answer : Option Answer
  /-- The dialogue afterwards. -/
  dialogue : Dialogue
  /-- What the action announces, in order. -/
  events : List Event

/-- The turn of an operation. -/
def Turn.ofStep (step : Step) : Turn := ⟨some step.answer, step.dialogue, step.events⟩

/-- The turn in which nothing happens yet. -/
def hold (d : Dialogue) : Turn := ⟨none, d, []⟩

/-- A turn that takes the slot, for which it has to be there. -/
def withSlot (d : Dialogue) (turn : Turn) : Turn :=
  if d.desk.awaited.isSome then d.hold else turn

/-- Gives out the result of a task that has ended, and leaves one desk behind; another one if the
caller has to come again. -/
def collect (d : Dialogue) (task : Nat) (ended waiting : Desk) : Turn :=
  match d.desk.result? task with
  | some result => .ofStep (d.atDesk (.result (some result)) ended)
  | none => { d with desk := waiting }.hold

/-- Does one action. -/
def act (d : Dialogue) : Action → Turn
  | .edit op => .ofStep (d.perform (.session op))
  | .ask instruction => d.withSlot (.ofStep (d.perform (.ask instruction)))
  | .poll task => .ofStep (d.atDesk .done (d.desk.poll d.assistant task))
  | .receive task answer => .ofStep (d.atDesk .done (d.desk.receive task answer))
  | .pass seconds => .ofStep (d.atDesk .done (d.desk.pass seconds))
  | .cancel => d.withSlot (.ofStep (d.atDesk (.found d.desk.slot.isSome) d.desk.abortSlot))
  | .cancelTask task => .ofStep (d.atDesk .done (d.desk.abort task))
  | .take => d.withSlot (.ofStep (d.atDesk (.found d.desk.slot.isSome) d.desk.takeSlot))
  | .letGo task => .ofStep (d.atDesk .done (d.desk.letGo task))
  | .wait =>
    match d.desk.awaited.or d.desk.slot with
    | none => .ofStep (d.atDesk (.result none) d.desk)
    | some task =>
      d.collect task { d.desk with slot := none, awaited := none }
        { d.desk with slot := none, awaited := some task }
  | .waitTaken task =>
    if task ∈ d.desk.taken then d.collect task (d.desk.letGo task) d.desk else d.hold

/-- The dialogue after actions, one after the other. -/
def after (d : Dialogue) (actions : List Action) : Dialogue :=
  actions.foldl (fun d x => (d.act x).dialogue) d

end Dialogue

end EditScript
