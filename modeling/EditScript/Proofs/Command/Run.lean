import EditScript.Proofs.Command.Meaning

/-!
# Running commands

Commands that are executed one after the other, each folded into the state that the next one finds.

* `Command.executeAll`, `Command.outcomes`: the last state, and all outcomes.
* `Command.Succeed`: every command succeeds.
* `Command.meanings`: what the commands come to, by their meaning alone.
* `Command.of_meanings_eq_ok`: commands that come to something succeed, and lead there. So a run is
  followed through without an outcome.
-/

namespace EditScript

open State (Parts)

namespace Command

/-- What several commands come to, one after the other. -/
def meanings (cs : List Command) (p : Parts) : Except CommandError Parts :=
  cs.foldlM (fun p c => c.meaning p) p

theorem meanings_cons {c : Command} {cs : List Command} {p q : Parts} (h : c.meaning p = .ok q) :
    meanings (c :: cs) p = meanings cs q := by
  unfold meanings
  rw [List.foldlM_cons, h]
  rfl

theorem exists_of_meanings_cons {c : Command} {cs : List Command} {p r : Parts}
    (h : meanings (c :: cs) p = .ok r) : ∃ q, c.meaning p = .ok q ∧ meanings cs q = .ok r := by
  cases hc : c.meaning p with
  | ok q =>
    rw [meanings_cons hc] at h
    exact ⟨q, rfl, h⟩
  | error e =>
    unfold meanings at h
    rw [List.foldlM_cons, hc] at h
    cases h

theorem meanings_append {cs ds : List Command} {p q : Parts} (h : meanings cs p = .ok q) :
    meanings (cs ++ ds) p = meanings ds q := by
  unfold meanings at h ⊢
  rw [List.foldlM_append, h]
  rfl

/-- The state that commands lead to if they are executed one after the other. A command that fails
leaves the state as it is. -/
def executeAll (cmds : List Command) (s : State) : State :=
  cmds.foldl (fun s c => (c.execute s).applyTo s) s

/-- The outcomes of commands that are executed one after the other. -/
def outcomes : List Command → State → List Outcome
  | [], _ => []
  | c :: cs, s => c.execute s :: outcomes cs ((c.execute s).applyTo s)

/-- Every one of the commands succeeds. -/
def Succeed (cs : List Command) (s : State) : Prop := ∀ o ∈ outcomes cs s, o.success = true

/-- **Commands that come to something succeed**, one by one, and lead there. -/
theorem of_meanings_eq_ok {s : State} {cs : List Command} {p : Parts}
    (h : meanings cs s.parts = .ok p) : Succeed cs s ∧ (executeAll cs s).parts = p := by
  induction cs generalizing s with
  | nil =>
    cases h
    exact ⟨fun _ ho => absurd ho List.not_mem_nil, rfl⟩
  | cons c cs ih =>
    obtain ⟨q, hc, hcs⟩ := exists_of_meanings_cons h
    obtain ⟨ho, hnext⟩ := of_meaning_eq_ok hc
    obtain ⟨hrest, hlast⟩ := ih (s := (c.execute s).applyTo s) (hnext ▸ hcs)
    have hsuccess : (c.execute s).success = true := by
      rw [ho]
      rfl
    exact ⟨List.forall_mem_cons.2 ⟨hsuccess, hrest⟩, hlast⟩

/-- Commands that come to the same lead to the same state. -/
theorem executeAll_eq_of_meanings {s : State} {cs ds : List Command} {p : Parts}
    (hc : meanings cs s.parts = .ok p) (hd : meanings ds s.parts = .ok p) :
    executeAll cs s = executeAll ds s :=
  State.parts_injective ((of_meanings_eq_ok hc).2.trans (of_meanings_eq_ok hd).2.symm)

end Command
end EditScript
