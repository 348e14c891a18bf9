import EditScript.Proofs.Json.Layout

/-!
# Keys of an object

A report is written with the members of each object in the order of their keys. Where no key stands
twice, a look-up finds the same value whatever the order is, and what a reader makes of the document
does not depend on the order either.

* `Json.member?_eq_some_iff`: looking up a key that stands once is membership.
* `Json.at?_sorted`: a look-up in an object whose members have been put in order.
* `Json.written_sorted`: putting members in order and reading what was written do not interfere.
* `Json.membersWritten_optional`: a member that may be absent is read as it was written.
-/

namespace EditScript.Json

variable {members : List (Option Text × Json)} {key : Text} {v : Json}

/-! ## Looking up a key -/

/-- By induction on the members: the first one with the key is the only one. -/
theorem member?_eq_some_iff (h : (members.map Prod.fst).Nodup) :
    member? members key = some v ↔ (some key, v) ∈ members := by
  induction members with
  | nil => simp [member?]
  | cons m rest ih =>
    obtain ⟨k, w⟩ := m
    rw [List.map_cons, List.nodup_cons] at h
    by_cases hk : k = some key
    · subst hk
      have hnot : (some key, v) ∉ rest := fun hmem => h.1 (List.mem_map.2 ⟨_, hmem, rfl⟩)
      simp [member?, hnot, eq_comm]
    · have hrest : member? ((k, w) :: rest) key = member? rest key := by simp [member?, hk]
      rw [hrest, ih h.2]
      simp [Ne.symm hk]

theorem membersSorted_eq_map (members : List (Option Text × Json)) :
    membersSorted members = members.map fun m => (m.1, sorted m.2) := by
  induction members with
  | nil => rfl
  | cons m rest ih => exact congrArg ((m.1, sorted m.2) :: ·) ih

theorem itemsSorted_eq_map (items : List Json) : itemsSorted items = items.map sorted := by
  induction items with
  | nil => rfl
  | cons v rest ih => exact congrArg (sorted v :: ·) ih

theorem at?_singleton (members : List (Option Text × Json)) (key : String) :
    (object members).at? [key] = member? members key.toList := by
  simp [at?]

/-- A path leads through the value under its first key. -/
theorem at?_cons (v : Json) (key : String) (path : List String) :
    v.at? (key :: path) = (v.at? [key]).bind fun w => w.at? path := by
  cases v <;> simp [at?]

/-- **The order of the members does not matter** for a look-up. -/
theorem at?_sorted (h : (members.map Prod.fst).Nodup) (key : String) :
    (object members).sorted.at? [key] = ((object members).at? [key]).map sorted := by
  have hperm : ((membersSorted members).mergeSort memberLe).Perm (membersSorted members) :=
    List.mergeSort_perm _ _
  have hkeys : (membersSorted members).map Prod.fst = members.map Prod.fst := by
    rw [membersSorted_eq_map, List.map_map]
    rfl
  have hnodup : (((membersSorted members).mergeSort memberLe).map Prod.fst).Nodup := by
    rw [(hperm.map Prod.fst).nodup_iff, hkeys]
    exact h
  show (object ((membersSorted members).mergeSort memberLe)).at? [key] = _
  rw [at?_singleton, at?_singleton]
  ext v
  rw [member?_eq_some_iff hnodup, hperm.mem_iff, membersSorted_eq_map]
  simp only [List.mem_map, Prod.mk.injEq, Option.map_eq_some_iff, member?_eq_some_iff h]
  constructor
  · rintro ⟨⟨k, w⟩, hmem, rfl, rfl⟩
    exact ⟨w, hmem, rfl⟩
  · rintro ⟨w, hmem, rfl⟩
    exact ⟨(some key.toList, w), hmem, rfl, rfl⟩

/-! ## Reading what was written -/

theorem membersWritten_eq_map (members : List (Option Text × Json)) :
    membersWritten members = members.map fun m => (some (m.1.getD []), written m.2) := by
  induction members with
  | nil => rfl
  | cons m rest ih => exact congrArg ((some (m.1.getD []), written m.2) :: ·) ih

theorem membersWritten_append (l m : List (Option Text × Json)) :
    membersWritten (l ++ m) = membersWritten l ++ membersWritten m := by
  simp only [membersWritten_eq_map, List.map_append]

/-- A member that may be absent. -/
theorem membersWritten_optional {α : Type} (key : String) {write : α → Json} {a : Option α}
    (h : ∀ x ∈ a, (write x).written = write x) :
    membersWritten (a.map fun x => member key (write x)).toList =
      (a.map fun x => member key (write x)).toList := by
  cases a with
  | none => rfl
  | some x => exact congrArg (fun v => [(some key.toList, v)]) (h x rfl)

mutual

/-- A key is read as it is compared, so the order is that of the keys that are read. -/
theorem written_sorted : ∀ v : Json, v.sorted.written = v.written.sorted
  | array items => congrArg array (itemsWritten_sorted items)
  | object members => by
    have horder : ∀ a ∈ membersSorted members, ∀ b ∈ membersSorted members, memberLe a b =
        memberLe (some (a.1.getD []), written a.2) (some (b.1.getD []), written b.2) :=
      fun _ _ _ _ => rfl
    show object (membersWritten ((membersSorted members).mergeSort memberLe)) =
      object ((membersSorted (membersWritten members)).mergeSort memberLe)
    rw [membersWritten_eq_map, List.map_mergeSort horder, ← membersWritten_eq_map,
      membersWritten_sorted members]
  | null => rfl
  | bool _ => rfl
  | nat n => by
    show plainWritten (nat n) = (plainWritten (nat n)).sorted
    unfold plainWritten
    dsimp only
    split <;> rfl
  | number => rfl
  | string _ => rfl
  | broken => rfl

theorem itemsWritten_sorted : ∀ items : List Json,
    itemsWritten (itemsSorted items) = itemsSorted (itemsWritten items)
  | [] => rfl
  | v :: rest => congrArg₂ List.cons (written_sorted v) (itemsWritten_sorted rest)

theorem membersWritten_sorted : ∀ members : List (Option Text × Json),
    membersWritten (membersSorted members) = membersSorted (membersWritten members)
  | [] => rfl
  | (key, v) :: rest =>
    congrArg₂ List.cons (congrArg (Prod.mk (some (key.getD []))) (written_sorted v))
      (membersWritten_sorted rest)

end

end EditScript.Json
