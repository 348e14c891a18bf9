import EditScript.Codec.State
import EditScript.Proofs.Codec.Faithful
import EditScript.Proofs.State.Parts

/-!
# States that are read

A document of the shape of a state names three parts, which need not fit together. A state is read
from it if they do; if not, the first bound that they break is told.

* `State.Parts.toJson`, `State.Parts.ofJson?`: the shape, whatever the parts are.
* `State.Parts.Breaks`: the first bound that parts break, and the error that names it.
* `State.Parts.ofParts_eq_error_iff`: an error tells exactly this.
* `Selection.faithful`, `Position.faithful`, `State.Parts.faithful`, `State.faithful`: these formats
  lose nothing as long as the offsets are 64-bit.
-/

namespace EditScript

open Json (Faithful written_nat offset?_nat lt_of_offset?)

/-- Both offsets are 64-bit. -/
structure Selection.InRange (s : Selection) : Prop where
  start : s.start < Text.offsetLimit
  stop : s.stop < Text.offsetLimit

/-- Both numbers are 64-bit. -/
structure Position.InRange (p : Position) : Prop where
  line : p.line < Text.offsetLimit
  column : p.column < Text.offsetLimit

theorem Buffer.faithful : Faithful Buffer.toJson Buffer.ofJson? (fun _ => True) where
  read?_write _ _ := rfl
  written_write _ _ := rfl
  fits_of_read? _ _ _ := trivial

theorem Selection.faithful : Faithful Selection.toJson Selection.ofJson? Selection.InRange where
  read?_write s h := by
    show (do return ⟨← (Json.nat s.start).offset?, ← (Json.nat s.stop).offset?⟩) = some s
    rw [offset?_nat h.start, offset?_nat h.stop]
    rfl
  written_write s h := by
    show Json.object [Json.member "start" (Json.nat s.start).written,
      Json.member "end" (Json.nat s.stop).written] = s.toJson
    rw [written_nat h.start, written_nat h.stop]
    rfl
  fits_of_read? v s h := by
    unfold Selection.ofJson? at h
    split at h
    · obtain ⟨start, hstart, h⟩ := Option.bind_eq_some_iff.1 h
      obtain ⟨stop, hstop, h⟩ := Option.bind_eq_some_iff.1 h
      cases h
      exact ⟨lt_of_offset? hstart, lt_of_offset? hstop⟩
    · cases h

theorem Position.faithful : Faithful Position.toJson Position.ofJson? Position.InRange where
  read?_write p h := by
    show (do return ⟨← (Json.nat p.line).offset?, ← (Json.nat p.column).offset?⟩) = some p
    rw [offset?_nat h.line, offset?_nat h.column]
    rfl
  written_write p h := by
    show Json.object [Json.member "line" (Json.nat p.line).written,
      Json.member "column" (Json.nat p.column).written] = p.toJson
    rw [written_nat h.line, written_nat h.column]
    rfl
  fits_of_read? v p h := by
    unfold Position.ofJson? at h
    split at h
    · obtain ⟨line, hline, h⟩ := Option.bind_eq_some_iff.1 h
      obtain ⟨column, hcolumn, h⟩ := Option.bind_eq_some_iff.1 h
      cases h
      exact ⟨lt_of_offset? hline, lt_of_offset? hcolumn⟩
    · cases h

namespace State

namespace Parts

/-- The parts as JSON. -/
def toJson (p : Parts) : Json :=
  .object [
    Json.member "content" p.content.toJson,
    Json.member "cursor" (.nat p.cursor),
    Json.member "selection" p.selection.toJson]

/-- The parts that a document of the shape of a state names. -/
def ofJson? (v : Json) : Option Parts :=
  match v.fields ["content", "cursor", "selection"] with
  | some [some content, some cursor, some selection] => do
    return ⟨← Buffer.ofJson? content, ← cursor.offset?, ← Selection.ofJson? selection⟩
  | _ => none

/-- All offsets are 64-bit. -/
structure InRange (p : Parts) : Prop where
  cursor : p.cursor < Text.offsetLimit
  selection : p.selection.InRange

theorem faithful : Faithful Parts.toJson Parts.ofJson? Parts.InRange where
  read?_write p h := by
    show (do return ⟨p.content, ← (Json.nat p.cursor).offset?,
      ← Selection.ofJson? p.selection.toJson⟩) = some p
    rw [offset?_nat h.cursor, Selection.faithful.read?_write _ h.selection]
    rfl
  written_write p h := by
    show Json.object [Json.member "content" p.content.toJson,
      Json.member "cursor" (Json.nat p.cursor).written,
      Json.member "selection" p.selection.toJson.written] = p.toJson
    rw [written_nat h.cursor, Selection.faithful.written_write _ h.selection]
    rfl
  fits_of_read? v p h := by
    unfold Parts.ofJson? at h
    split at h
    · obtain ⟨content, -, h⟩ := Option.bind_eq_some_iff.1 h
      obtain ⟨cursor, hcursor, h⟩ := Option.bind_eq_some_iff.1 h
      obtain ⟨selection, hselection, h⟩ := Option.bind_eq_some_iff.1 h
      cases h
      exact ⟨lt_of_offset? hcursor, Selection.faithful.fits_of_read? _ _ hselection⟩
    · cases h

/-- The first bound that the parts break: the cursor comes before the selection, and the order of
the selection before its end. -/
inductive Breaks (p : Parts) : BufferError → Prop
  | cursor (h : p.content.length < p.cursor) :
      Breaks p (.invalidIndex p.cursor p.content.length)
  | reversed (hc : p.cursor ≤ p.content.length) (h : p.selection.stop < p.selection.start) :
      Breaks p (.invalidSelection p.selection.start p.selection.stop)
  | stop (hc : p.cursor ≤ p.content.length) (hr : p.selection.start ≤ p.selection.stop)
      (h : p.content.length < p.selection.stop) :
      Breaks p (.invalidIndex p.selection.stop p.content.length)

variable {p : Parts} {e : BufferError}

/-- The error is that of the first bound that is broken. -/
theorem ofParts_eq_error_iff : ofParts p.content p.cursor p.selection = .error e ↔ p.Breaks e := by
  constructor
  · intro h
    unfold ofParts at h
    split at h
    · cases h
      exact .cursor ‹_›
    · have hc := Nat.le_of_not_lt ‹¬_›
      split at h
      · cases h
        exact .reversed hc ‹_›
      · have hr := Nat.le_of_not_lt ‹¬p.selection.stop < _›
        split at h
        · cases h
          exact .stop hc hr ‹_›
        · cases h
  · intro h
    unfold ofParts
    cases h with
    | cursor h => exact dif_pos h
    | reversed hc h => rw [dif_neg (Nat.not_lt.2 hc), dif_pos h]
    | stop hc hr h => rw [dif_neg (Nat.not_lt.2 hc), dif_neg (Nat.not_lt.2 hr), dif_pos h]

theorem exists_ofParts_eq_ok_iff :
    (∃ s, ofParts p.content p.cursor p.selection = .ok s) ↔ p.WithinBounds := by
  constructor
  · rintro ⟨s, hs⟩
    exact withinBounds_of_ofParts hs
  · intro h
    obtain ⟨s, hs, -⟩ := h.exists_state
    exact ⟨s, hs⟩

end Parts

/-- A state is read from the parts that the document names. -/
theorem ofJson?_eq (v : Json) :
    State.ofJson? v = (Parts.ofJson? v).map fun p => ofParts p.content p.cursor p.selection := by
  unfold State.ofJson? Parts.ofJson?
  generalize v.fields ["content", "cursor", "selection"] = fields
  -- Only three fields that are there make parts.
  rcases fields with
    _ | _ | ⟨_ | content, _ | ⟨_ | cursor, _ | ⟨_ | selection, _ | ⟨_, _⟩⟩⟩⟩
  case some.cons.some.cons.some.cons.some.nil =>
    dsimp only
    cases Buffer.ofJson? content <;> cases cursor.offset? <;> cases Selection.ofJson? selection <;>
      rfl
  all_goals rfl

/-- The state that a JSON value stands for, if its parts are within bounds. -/
def accept? (v : Json) : Option State := (State.ofJson? v).bind Except.toOption

theorem accept?_eq_some_iff {v : Json} {s : State} :
    accept? v = some s ↔ Parts.ofJson? v = some s.parts := by
  unfold accept?
  rw [ofJson?_eq]
  cases hp : Parts.ofJson? v with
  | none => simp
  | some p =>
    have hok : ofParts p.content p.cursor p.selection = .ok s ↔ s.parts = p := ofParts_eq_ok_iff
    show (ofParts p.content p.cursor p.selection).toOption = some s ↔ some p = some s.parts
    rw [Option.some.injEq, eq_comm (a := p), ← hok]
    cases ofParts p.content p.cursor p.selection <;> simp [Except.toOption]

/-- All offsets are 64-bit. -/
def InRange (s : State) : Prop := s.parts.InRange

theorem faithful : Faithful State.toJson accept? State.InRange where
  read?_write s h := accept?_eq_some_iff.2 (Parts.faithful.read?_write s.parts h)
  written_write s h := Parts.faithful.written_write s.parts h
  fits_of_read? v s h := Parts.faithful.fits_of_read? v s.parts (accept?_eq_some_iff.1 h)

end State
end EditScript
