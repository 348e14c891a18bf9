import EditScript.Event

/-!
# Changes in place

Something that is changed in place, with what has been announced on the way. A change may fail.
What it has done by then is not taken back, be it changed or announced.

* `Live`: what is being changed, and what has been announced.
* `Live.Change`: what may change it, and may fail.
-/

namespace EditScript

/-- Something that is being changed, and what has been announced about it. -/
structure Live (σ : Type) where
  /-- The value as it is now. -/
  value : σ
  /-- What has been announced so far, in order. -/
  events : List Event

namespace Live

variable {ε σ α β : Type}

/-- What may change a value and may fail; it leaves a value in either case. -/
abbrev Change (ε σ α : Type) := EStateM ε (Live σ) α

/-- The value as it is now. -/
def now : Change ε σ σ := fun live => .ok live.value live

/-- What is done with the value as it is now. -/
theorem bind_now (g : σ → Change ε σ β) (live : Live σ) : (now >>= g) live = g live.value live :=
  rfl

/-- Puts another value in place, and gives what comes of that. -/
def update (f : σ → α × σ) : Change ε σ α := fun live =>
  let (a, next) := f live.value
  .ok a { live with value := next }

/-- Announces an event. -/
def announce (event : Event) : Change ε σ Unit := fun live =>
  .ok () { live with events := live.events ++ [event] }

/-- What has come out, or else fails as that did. -/
def given : Except ε α → Change ε σ α
  | .ok a => return a
  | .error e => throw e

/-- What was looked for, or else fails. -/
def found (missing : ε) : Option α → Change ε σ α
  | some a => return a
  | none => throw missing

end Live

end EditScript
