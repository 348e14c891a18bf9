/-!
# Changes that may fail

A change goes from one state to the next, and gives a value or an error. What it has done before an
error is not taken back. Buffers and disks are changed in this way.

* `Change.left`: the state that a change leaves, whether it failed or not.
* `Change.bind_of_ok`, `Change.bind_of_error`: two changes in a row, by what came of the first one.
* `Change.adaptExcept_of_ok`, `Change.adaptExcept_of_error`: a change with its error told otherwise.
-/

namespace EditScript.Change

variable {ε ε' σ α β : Type} {x : EStateM ε σ α} {s next : σ} {a : α} {e : ε}

/-- The state that a change leaves. -/
def left : EStateM.Result ε σ α → σ
  | .ok _ s => s
  | .error _ s => s

/-- A change that depends on the state. -/
theorem bind_get (g : σ → EStateM ε σ β) (s : σ) : (get >>= g) s = g s s := rfl

theorem bind_of_ok (h : x s = .ok a next) (g : α → EStateM ε σ β) : (x >>= g) s = g a next := by
  show EStateM.bind x g s = g a next
  unfold EStateM.bind
  rw [h]

/-- What a change has done before it fails is not taken back. -/
theorem bind_of_error (h : x s = .error e next) (g : α → EStateM ε σ β) :
    (x >>= g) s = .error e next := by
  show EStateM.bind x g s = .error e next
  unfold EStateM.bind
  rw [h]

theorem adaptExcept_of_ok (h : x s = .ok a next) (f : ε → ε') :
    x.adaptExcept f s = .ok a next := by
  unfold EStateM.adaptExcept
  rw [h]

theorem adaptExcept_of_error (h : x s = .error e next) (f : ε → ε') :
    x.adaptExcept f s = .error (f e) next := by
  unfold EStateM.adaptExcept
  rw [h]

end EditScript.Change
