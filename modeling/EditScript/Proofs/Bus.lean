import EditScript.Event
import EditScript.Proofs.Log

/-!
# What a bus keeps

* `Bus.Full`: the bus keeps the last events, as many as it has room for. Every operation of the
  bus keeps this (`Bus.Full.emit`, `Bus.Full.emitAll`, `Bus.Full.subscribe`).
* `Bus.emitAll`: several events, one after the other.
* `Bus.drain_emitAll`: a reader that was up to date gets exactly the events that were emitted
  since, if the bus has room for them, and is up to date again.
-/

namespace EditScript
namespace Bus

/-- Hands several events to every reader. -/
def emitAll (b : Bus) (events : List Event) : Bus := events.foldl emit b

/-- The bus keeps the last events, as many as it has room for. -/
def Full (b : Bus) : Prop := b.kept.length = min b.emitted capacity

variable {b : Bus}

theorem fresh_full : fresh.Full := rfl

theorem emit_of_handles (h : 0 < b.handles) (e : Event) :
    b.emit e = { b with
      kept := (b.kept ++ [e]).rtake capacity
      emitted := b.emitted + 1 } := by
  unfold emit List.rtake
  rw [if_neg (Nat.pos_iff_ne_zero.1 h), List.length_append, List.length_singleton]

theorem Full.emit (h : b.Full) (e : Event) : (b.emit e).Full := by
  rcases Nat.eq_zero_or_pos b.handles with h0 | h0
  · unfold Bus.emit
    rw [if_pos h0]
    exact h
  · rw [emit_of_handles h0]
    unfold Full at *
    simp only [List.rtake, List.length_drop, List.length_append, List.length_singleton]
    omega

theorem Full.emitAll (h : b.Full) (events : List Event) : (b.emitAll events).Full := by
  induction events generalizing b with
  | nil => exact h
  | cons e events ih => exact ih (h.emit e)

theorem Full.subscribe (h : b.Full) : b.subscribe.Full := by
  unfold Bus.subscribe
  split <;> exact h

/-- What emitting several events changes, if there is a handle to emit them through. -/
theorem emitAll_eq (h : 0 < b.handles) (hf : b.Full) (events : List Event) :
    b.emitAll events = { b with
      kept := (b.kept ++ events).rtake capacity
      emitted := b.emitted + events.length } := by
  induction events generalizing b with
  | nil =>
    have hroom : b.kept.length - capacity = 0 := by unfold Full at hf; omega
    simp [emitAll, List.rtake, hroom]
  | cons e events ih =>
    show (b.emit e).emitAll events = _
    rw [ih (by rw [emit_of_handles h]; exact h) (hf.emit e), emit_of_handles h]
    simp only [rtake_append_rtake, List.append_assoc, List.singleton_append, List.length_cons,
      Nat.add_assoc, Nat.add_comm 1]

/-- **A reader that drains in time misses nothing.** It gets the events that were emitted since
it was up to date, in order, and is up to date again. -/
theorem drain_emitAll {reader : Nat} {events : List Event} (h : 0 < b.handles) (hf : b.Full)
    (hr : b.readers[reader]? = some b.emitted) (hroom : events.length ≤ capacity) :
    (b.emitAll events).drain reader = some (events, .pending,
      { b.emitAll events with
        readers := b.readers.set reader (b.emitAll events).emitted }) := by
  have hfull := hf.emitAll events
  have heq := emitAll_eq h hf events
  have hhandles : (b.emitAll events).handles = b.handles := by rw [heq]
  have hreaders : (b.emitAll events).readers = b.readers := by rw [heq]
  have hidle : (b.emitAll events).idle = .pending := by
    unfold idle
    rw [hhandles, if_neg (Nat.pos_iff_ne_zero.1 h)]
  have hunread : (b.emitAll events).unread b.emitted = events := by
    have hlen := congrArg (fun x : Bus => x.kept.length) heq
    simp only [List.rtake, List.length_drop, List.length_append] at hlen
    unfold Full at hf hfull
    unfold unread oldest
    rw [hlen, heq]
    simp only [List.rtake, List.drop_drop, List.length_append]
    rw [show b.kept.length + events.length - capacity + _ = b.kept.length by omega]
    exact List.drop_left' rfl
  unfold drain
  rw [hreaders, hr, hidle]
  simp only [Option.bind_eq_bind, Option.bind_some, hunread]
  rfl

end Bus
end EditScript
