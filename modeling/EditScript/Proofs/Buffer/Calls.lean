import EditScript.Proofs.Buffer.Edit
import EditScript.Proofs.Change

/-!
# Calls on one buffer

A host may keep one buffer and change it in place, call by call. A call that fails after it has
changed something would leave a buffer that is neither the old one nor a new one. A replacement is a
deletion and then an insertion, and might do so; here it is shown that no call does.

* `Buffer.InPlace`: what may change a buffer and may fail, with the buffer that it leaves.
* `Buffer.InPlace.insert`, `Buffer.InPlace.delete`, `Buffer.InPlace.replace`,
  `Buffer.InPlace.slice`: the changes, and for each what it does with offsets that are refused and
  with others (`Buffer.InPlace.replace_of_refused`, `Buffer.InPlace.replace_of_within`).
* `Buffer.InPlace.replace_eq`: in place, a replacement is made as a whole or not at all.
* `Buffer.Call`, `Buffer.Call.meaning`: a call, and what it comes to on a list of characters.
* `Buffer.Call.perform_means`, `Buffer.Call.performAll_means`: one call, and a sequence of them.
* `Buffer.calls_splice_or_fail`: what this means for every text and every sequence of calls.
-/

namespace EditScript
namespace Buffer

/-! ## Changes in place -/

/-- What may change a buffer, and may fail; it leaves a buffer in either case. -/
abbrev InPlace (α : Type) := EStateM BufferError Buffer α

namespace InPlace

/-- Puts the edited buffer in place of the buffer, which stays if the edit is refused. -/
def edit {α : Type} (f : Buffer → Except BufferError (α × Buffer)) : InPlace α := fun b =>
  match f b with
  | .ok (a, next) => .ok a next
  | .error e => .error e b

/-- Puts a text in at an offset. -/
def insert (index : Nat) (text : Text) : InPlace Unit :=
  edit fun b => (b.insert index text).map fun next => ((), next)

/-- Takes a range out, and gives its text. -/
def delete (start stop : Nat) : InPlace Text := edit fun b => b.delete start stop

/-- Gives the text of a range. -/
def slice (start stop : Nat) : InPlace Text :=
  edit fun b => (b.slice start stop).map fun text => (text, b)

/-- Takes a range out, and then puts a text in where it was; gives the text of the range. -/
def replace (start stop : Nat) (text : Text) : InPlace Text := do
  let removed ← delete start stop
  insert start text
  return removed

/-- What a change gave, or why it failed, and the buffer that it left. -/
def settled {α : Type} : EStateM.Result BufferError Buffer α → Except BufferError α × Buffer
  | .ok a next => (.ok a, next)
  | .error e next => (.error e, next)

end InPlace

/-! ## Calls -/

/-- A call on a buffer. -/
inductive Call where
  | insert (index : Nat) (text : Text)
  | delete (start stop : Nat)
  | replace (start stop : Nat) (text : Text)
  | slice (start stop : Nat)

namespace Call

/-- Makes the call. An insertion gives no text. -/
def perform : Call → InPlace (Option Text)
  | insert index text => do
    InPlace.insert index text
    return none
  | delete start stop => do return some (← InPlace.delete start stop)
  | replace start stop text => do return some (← InPlace.replace start stop text)
  | slice start stop => do return some (← InPlace.slice start stop)

/-- Makes calls one after the other, whether they fail or not. -/
def performAll (b : Buffer) : List Call → List (Except BufferError (Option Text)) × Buffer
  | [] => ([], b)
  | call :: calls =>
    let (answer, next) := InPlace.settled (call.perform b)
    let (answers, last) := performAll next calls
    (answer :: answers, last)

/-- The first offset that the call is about. -/
def start : Call → Nat
  | insert index _ => index
  | delete start _ | replace start _ _ | slice start _ => start

/-- The last offset that the call is about. -/
def stop : Call → Nat
  | insert index _ => index
  | delete _ stop | replace _ stop _ | slice _ stop => stop

/-- The characters that the call asks for. -/
def gives (chars : Text) : Call → Option Text
  | insert _ _ => none
  | delete start stop | replace start stop _ | slice start stop =>
    some ((chars.take stop).drop start)

/-- The characters as the call is to leave them. -/
def leaves (chars : Text) : Call → Text
  | insert index text => chars.take index ++ text ++ chars.drop index
  | delete start stop => chars.take start ++ chars.drop stop
  | replace start stop text => chars.take start ++ text ++ chars.drop stop
  | slice _ _ => chars

/-- **What a call comes to.** A reversed range is refused, and then one that ends beyond the end,
and the characters stay. Otherwise the call gives what it asks for. -/
def meaning (chars : Text) (call : Call) : Except BufferError (Option Text) × Text :=
  if call.stop < call.start then (.error (.invalidSelection call.start call.stop), chars)
  else if chars.length < call.stop then (.error (.invalidIndex call.stop chars.length), chars)
  else (.ok (call.gives chars), call.leaves chars)

/-- What several calls come to. -/
def meanings (chars : Text) : List Call → List (Except BufferError (Option Text)) × Text
  | [] => ([], chars)
  | call :: calls =>
    let (answer, next) := call.meaning chars
    let (answers, last) := meanings next calls
    (answer :: answers, last)

end Call

variable {b : Buffer} {index start stop : Nat} {e : BufferError}

/-! ## Refused offsets -/

theorem checkRange_of_reversed (h : stop < start) :
    b.checkRange start stop = .error (.invalidSelection start stop) := by
  unfold checkRange
  exact if_pos h

theorem checkRange_of_beyond (h₁ : start ≤ stop) (h₂ : b.length < stop) :
    b.checkRange start stop = .error (.invalidIndex stop b.length) := by
  unfold checkRange checkIndex
  rw [if_neg (Nat.not_lt.2 h₁), if_pos h₂]

/-- An offset is checked like the range without characters that lies there. -/
theorem checkRange_self (b : Buffer) (index : Nat) :
    b.checkRange index index = b.checkIndex index := by
  unfold checkRange
  exact if_neg (Nat.lt_irrefl index)

/-- A range is refused or lies within bounds. -/
theorem range_cases (b : Buffer) (start stop : Nat) :
    (∃ e, b.checkRange start stop = .error e) ∨ start ≤ stop ∧ stop ≤ b.length := by
  rcases Nat.lt_or_ge stop start with h | h₁
  · exact .inl ⟨_, checkRange_of_reversed h⟩
  · rcases Nat.lt_or_ge b.length stop with h | h₂
    · exact .inl ⟨_, checkRange_of_beyond h₁ h⟩
    · exact .inr ⟨h₁, h₂⟩

namespace InPlace

/-! ## Each change -/

section Steps

variable {α : Type} {f : Buffer → Except BufferError (α × Buffer)} {a : α} {next : Buffer}

theorem edit_of_ok (h : f b = .ok (a, next)) : edit f b = .ok a next := by
  unfold edit
  rw [h]

theorem edit_of_error (h : f b = .error e) : edit f b = .error e b := by
  unfold edit
  rw [h]

end Steps

theorem insert_of_refused (text : Text) (h : b.checkIndex index = .error e) :
    insert index text b = .error e b :=
  edit_of_error (by unfold Buffer.insert; rw [h]; rfl)

theorem insert_of_within (text : Text) (h : index ≤ b.length) :
    insert index text b = .ok () (b.splice index index text) :=
  edit_of_ok (by rw [insert_eq_ok text h]; rfl)

theorem delete_of_refused (h : b.checkRange start stop = .error e) :
    delete start stop b = .error e b :=
  edit_of_error (by unfold Buffer.delete; rw [h]; rfl)

theorem delete_of_within (h₁ : start ≤ stop) (h₂ : stop ≤ b.length) :
    delete start stop b = .ok (b.between start stop) (b.splice start stop []) :=
  edit_of_ok (delete_eq_ok h₁ h₂)

theorem slice_of_refused (h : b.checkRange start stop = .error e) :
    slice start stop b = .error e b :=
  edit_of_error (by unfold Buffer.slice; rw [h]; rfl)

theorem slice_of_within (h₁ : start ≤ stop) (h₂ : stop ≤ b.length) :
    slice start stop b = .ok (b.between start stop) b :=
  edit_of_ok (by unfold Buffer.slice; rw [checkRange_eq_ok h₁ h₂]; rfl)

/-- Nothing has been taken out yet when the range is refused. -/
theorem replace_of_refused (text : Text) (h : b.checkRange start stop = .error e) :
    replace start stop text b = .error e b :=
  Change.bind_of_error (delete_of_refused h) _

/-- What the deletion leaves reaches up to where the range started, so the insertion cannot fail. -/
theorem replace_of_within (text : Text) (h₁ : start ≤ stop) (h₂ : stop ≤ b.length) :
    replace start stop text b = .ok (b.between start stop) (b.splice start stop text) := by
  have hroom : start ≤ (b.splice start stop []).length := le_length_splice [] h₁ h₂
  unfold replace
  rw [Change.bind_of_ok (delete_of_within h₁ h₂), Change.bind_of_ok (insert_of_within text hroom),
    splice_splice text (Nat.le_trans h₁ h₂)]
  rfl

/-! ## Replacements -/

/-- **In place, a replacement is made as a whole or not at all.** -/
theorem replace_eq (start stop : Nat) (text : Text) :
    replace start stop text = edit fun b => b.replace start stop text := by
  funext b
  rcases range_cases b start stop with ⟨e, h⟩ | ⟨h₁, h₂⟩
  · have hrefused : b.replace start stop text = .error e := by
      unfold Buffer.replace Buffer.delete
      rw [h]
      rfl
    rw [replace_of_refused text h, edit_of_error hrefused]
  · rw [replace_of_within text h₁ h₂, edit_of_ok (replace_eq_ok text h₁ h₂)]

/-- A replacement gives what a deletion gives, and that is what reading the range gives. -/
theorem settled_eq (b : Buffer) (start stop : Nat) (text : Text) :
    (settled (replace start stop text b)).1 = (settled (delete start stop b)).1 ∧
      (settled (delete start stop b)).1 = (settled (slice start stop b)).1 := by
  rcases range_cases b start stop with ⟨e, h⟩ | ⟨h₁, h₂⟩
  · rw [replace_of_refused text h, delete_of_refused h, slice_of_refused h]
    exact ⟨rfl, rfl⟩
  · rw [replace_of_within text h₁ h₂, delete_of_within h₁ h₂, slice_of_within h₁ h₂]
    exact ⟨rfl, rfl⟩

/-- **A replacement is undone by a replacement** of the text by what was removed. -/
theorem replace_undone (text : Text) (h₁ : start ≤ stop) (h₂ : stop ≤ b.length) :
    replace start (start + text.length) (b.between start stop) (b.splice start stop text) =
      .ok text b := by
  have hstop := le_length_splice text h₁ h₂
  rw [replace_of_within _ (Nat.le_add_right start text.length) hstop,
    between_splice stop text (Nat.le_trans h₁ h₂), splice_between text h₁ h₂]

end InPlace

namespace Call

variable {call : Call}

/-! ## Calls come to what they mean -/

theorem perform_of_refused (h : b.checkRange call.start call.stop = .error e) :
    call.perform b = .error e b := by
  cases call with
  | insert index text =>
    have hindex : b.checkIndex index = .error e := (b.checkRange_self index).symm.trans h
    exact Change.bind_of_error (InPlace.insert_of_refused text hindex) _
  | delete => exact Change.bind_of_error (InPlace.delete_of_refused h) _
  | replace _ _ text => exact Change.bind_of_error (InPlace.replace_of_refused text h) _
  | slice => exact Change.bind_of_error (InPlace.slice_of_refused h) _

theorem perform_of_within (h₁ : call.start ≤ call.stop) (h₂ : call.stop ≤ b.length) :
    call.perform b = .ok (call.gives b.chars) ⟨call.leaves b.chars⟩ := by
  cases call with
  | insert _ text => exact Change.bind_of_ok (InPlace.insert_of_within text h₂) _
  | delete start stop =>
    have hsplice : b.splice start stop [] = ⟨(delete start stop).leaves b.chars⟩ := by
      unfold splice
      rw [List.append_nil]
      rfl
    rw [← hsplice]
    exact Change.bind_of_ok (InPlace.delete_of_within h₁ h₂) _
  | replace _ _ text => exact Change.bind_of_ok (InPlace.replace_of_within text h₁ h₂) _
  | slice => exact Change.bind_of_ok (InPlace.slice_of_within h₁ h₂) _

/-- **A call comes to what it means**, in its answer and in the buffer that it leaves. -/
theorem perform_means (call : Call) (b : Buffer) : InPlace.settled (call.perform b) =
    ((call.meaning b.chars).1, ⟨(call.meaning b.chars).2⟩) := by
  unfold meaning
  split
  · rename_i h
    rw [perform_of_refused (checkRange_of_reversed h)]
    rfl
  · rename_i horder
    have h₁ := Nat.le_of_not_lt horder
    split
    · rename_i h
      rw [perform_of_refused (checkRange_of_beyond h₁ h)]
      rfl
    · rename_i h
      rw [perform_of_within h₁ (Nat.le_of_not_lt h)]
      rfl

/-- By induction on the calls, each made on the buffer that the one before has left. -/
theorem performAll_means (calls : List Call) (b : Buffer) :
    performAll b calls = ((meanings b.chars calls).1, ⟨(meanings b.chars calls).2⟩) := by
  induction calls generalizing b with
  | nil => rfl
  | cons call calls ih => simp only [performAll, meanings, perform_means call b, ih]

end Call

/-- **Calls are exact splices or change nothing.** Whatever calls have been made on a text, they
have come to what they mean. On the text that they have left, a replacement in place is the one that
is made as a whole; it gives what a deletion of the range gives, and what reading the range gives,
be it a text or an error, so that it never fails after the deletion. A replacement within bounds is
undone by putting what was removed in place of the new text. -/
theorem calls_splice_or_fail (chars : Text) (calls : List Call) :
    let last := (Call.meanings chars calls).2
    Call.performAll ⟨chars⟩ calls = ((Call.meanings chars calls).1, ⟨last⟩) ∧
      ∀ (start stop : Nat) (text : Text),
        let replaced := InPlace.replace start stop text ⟨last⟩
        let deleted := InPlace.delete start stop ⟨last⟩
        let read := InPlace.slice start stop ⟨last⟩
        replaced = InPlace.edit (fun b => b.replace start stop text) ⟨last⟩ ∧
        (InPlace.settled replaced).1 = (InPlace.settled deleted).1 ∧
        (InPlace.settled deleted).1 = (InPlace.settled read).1 ∧
        (start ≤ stop → stop ≤ last.length → ∃ removed next, replaced = .ok removed next ∧
          InPlace.replace start (start + text.length) removed next = .ok text ⟨last⟩) := by
  intro last
  refine ⟨Call.performAll_means calls ⟨chars⟩, fun start stop text => ?_⟩
  obtain ⟨hdeleted, hread⟩ := InPlace.settled_eq ⟨last⟩ start stop text
  refine ⟨congrFun (InPlace.replace_eq start stop text) _, hdeleted, hread, fun h₁ h₂ => ?_⟩
  exact ⟨_, _, InPlace.replace_of_within text h₁ h₂, InPlace.replace_undone text h₁ h₂⟩

/-- A reversed range and an offset beyond the end between calls that are made; and a replacement of
the whole text that is taken back. -/
theorem refused_calls_change_nothing :
    let chars := "abc".toList
    let calls : List Call := [.delete 2 1, .replace 1 3 ['é'], .insert 3 ['x'], .slice 1 2]
    Call.performAll ⟨chars⟩ calls =
      ([.error (.invalidSelection 2 1), .ok (some ['b', 'c']), .error (.invalidIndex 3 2),
        .ok (some ['é'])], ⟨['a', 'é']⟩) ∧
    0 ≤ 2 ∧ 2 ≤ ['a', 'é'].length ∧ ∃ removed next,
      InPlace.replace 0 2 chars ⟨['a', 'é']⟩ = .ok removed next ∧
        InPlace.replace 0 (0 + chars.length) removed next = .ok chars ⟨['a', 'é']⟩ := by
  intro chars calls
  obtain ⟨hcalls, hlast⟩ := calls_splice_or_fail chars calls
  obtain ⟨-, -, -, hundone⟩ := hlast 0 2 chars
  have h₂ : 2 ≤ ['a', 'é'].length := by decide
  exact ⟨hcalls, Nat.zero_le 2, h₂, hundone (Nat.zero_le 2) h₂⟩

end Buffer
end EditScript
