import Mathlib.Data.List.Perm.Subperm
import EditScript.Proofs.Assist.Run

/-!
# Who holds a request

A request can be waited for through the slot or by whoever has taken it, and by one of them alone.

* `Desk.handles`: the requests that can still be waited for.
* `Dialogue.delivers`: the request whose result an action hands out.
* `Desk.Custody`: nothing is held twice, and nothing is held whose result was handed out. What the
  slot is for is the request that was started last. Every action keeps this
  (`Dialogue.Effect.custody`).
* `Dialogue.custody_after`: so every run does.
-/

namespace EditScript

open Assist

namespace Assist.Desk

/-- The requests that can still be waited for. -/
def handles (d : Desk) : List Nat := d.slot.toList ++ d.awaited.toList ++ d.taken

/-- The request that the slot is for: the one that is in it, or is waited for through it. -/
def fronts (d : Desk) (task : Nat) : Prop := d.slot = some task ∨ d.awaited = some task

theorem fronts_of_or {d : Desk} {task : Nat} (h : d.awaited.or d.slot = some task) :
    d.fronts task := by
  rcases Option.or_eq_some_iff.1 h with hw | ⟨-, hs⟩
  · exact .inr hw
  · exact .inl hs

/-- No request is held twice, and none of those that are held is `out`. The slot is empty while a
request is waited for through it, and it is for the request that was started last. -/
structure Custody (d : Desk) (out : List Nat) : Prop where
  apart : d.awaited.isSome = true → d.slot = none
  last : ∀ task, d.fronts task → task + 1 = d.tasks.length
  known : ∀ task ∈ d.handles ++ out, task < d.tasks.length
  once : (d.handles ++ out).Nodup

namespace Custody

variable {d d' : Desk} {out out' : List Nat} {task other : Nat}

theorem fresh (transport : Transport) : (Desk.fresh transport).Custody [] where
  apart _ := rfl
  last _ h := by rcases h with h | h <;> cases h
  known _ h := by cases h
  once := List.nodup_nil

/-- Handles may be given up or handed on, and the tasks go on. -/
theorem of_subperm (h : d.Custody out) (hlen : d'.tasks.length = d.tasks.length)
    (hsub : (d'.handles ++ out').Subperm (d.handles ++ out))
    (hapart : d'.awaited.isSome = true → d'.slot = none)
    (hfront : ∀ task, d'.fronts task → d.fronts task) : d'.Custody out' where
  apart := hapart
  last task ht := by rw [hlen, h.last task (hfront task ht)]
  known task ht := by
    rw [hlen]
    exact h.known task (hsub.subset ht)
  once := by
    obtain ⟨l, hperm, hl⟩ := hsub
    exact hperm.nodup_iff.1 (hl.nodup h.once)

/-- What the slot is for stands first among the handles. -/
theorem handles_eq (h : d.Custody out) (hs : d.awaited.or d.slot = some task) :
    d.handles = task :: d.taken := by
  unfold handles
  cases hw : d.awaited with
  | none =>
    rw [hw, Option.none_or] at hs
    rw [hs]
    rfl
  | some other =>
    rw [hw, Option.some_or] at hs
    rw [h.apart (by rw [hw]; rfl), hs]
    rfl

theorem eq_of_fronts (h : d.Custody out) (hs : d.awaited.or d.slot = some task)
    (ho : d.fronts other) : other = task := by
  have hother := h.last other ho
  have htask := h.last task (fronts_of_or hs)
  omega

/-- A new request is put into the slot, in place of the one that was there. -/
theorem put (h : d.Custody out) (hw : d.awaited = none) (t : Task) :
    { d with tasks := d.tasks ++ [t], slot := some d.tasks.length }.Custody out := by
  have hsub : (d.taken ++ out).Sublist (d.handles ++ out) :=
    (List.sublist_append_right _ _).append_right out
  have hknown : ∀ task ∈ d.taken ++ out, task < d.tasks.length :=
    fun task ht => h.known task (hsub.subset ht)
  have hhandles : { d with tasks := d.tasks ++ [t], slot := some d.tasks.length }.handles =
      d.tasks.length :: d.taken := by simp [handles, hw]
  refine ⟨fun ha => ?_, fun task ht => ?_, fun task ht => ?_, ?_⟩
  · simp [hw] at ha
  · rcases ht with ht | ht
    · cases ht
      simp
    · simp [hw] at ht
  · rw [hhandles, List.cons_append, List.mem_cons] at ht
    simp only [List.length_append, List.length_singleton]
    rcases ht with rfl | ht
    · omega
    · have := hknown task ht
      omega
  · rw [hhandles, List.cons_append, List.nodup_cons]
    exact ⟨fun hm => Nat.lt_irrefl _ (hknown _ hm), hsub.nodup h.once⟩

end Custody

/-- A task that was taken is no longer held once its result is handed out. -/
theorem perm_hand_out {taken : List Nat} {task : Nat} (hm : task ∈ taken) (out : List Nat) :
    (taken.erase task ++ (out ++ [task])).Perm (taken ++ out) := by
  have hout : (out ++ [task]).Perm (task :: out) := List.perm_append_singleton task out
  have htaken : (task :: taken.erase task).Perm taken := (List.perm_cons_erase hm).symm
  exact (hout.append_left _).trans (List.perm_middle.trans (htaken.append_right out))

end Assist.Desk

namespace Dialogue

variable {d : Dialogue} {x : Action} {turn : Turn} {out : List Nat}

/-- The request whose result an action hands out, as its answer tells. -/
def delivers (d : Dialogue) (x : Action) (turn : Turn) : List Nat :=
  match turn.answer with
  | some (.result (some _)) => (d.waitsFor x).toList
  | _ => []

/-- The requests whose results a run hands out. -/
abbrev delivered : Dialogue → List Action → List Nat := noted delivers

theorem Idle.delivers {answer : Option Answer} (h : Idle d x answer) :
    delivers d x ⟨answer, d, []⟩ = [] := by
  cases h <;> rfl

/-- Every action keeps the requests apart. -/
theorem Effect.custody (he : Effect d x turn) (h : d.desk.Custody out) :
    turn.dialogue.desk.Custody (out ++ delivers d x turn) := by
  have hkept : d.desk.Custody (out ++ []) := by rwa [List.append_nil]
  cases he with
  | idle hi =>
    rw [hi.delivers]
    exact hkept
  | edit => exact hkept
  | passed | polled | received | canceled | canceledTask =>
    refine hkept.of_subperm ?_ (.refl _) h.apart fun _ ht => ht
    simp [Desk.pass, Desk.receive, Desk.abort]
  | asked instruction hw hb => exact hkept.put hw _
  | taken hw hs =>
    refine hkept.of_subperm rfl ?_ (fun _ => rfl) fun task ht => ?_
    · rw [h.handles_eq (by rw [hw, Option.none_or, hs])]
      simp only [Desk.handles, hw, delivers, Option.toList_none, List.nil_append, List.append_nil]
      exact .refl _
    · rcases ht with ht | ht
      · cases ht
      · exact .inr ht
  | letGo task =>
    refine hkept.of_subperm rfl ?_ h.apart fun _ ht => ht
    exact ((List.erase_sublist.append_left _).append_right _).subperm
  | @collected task r hs hr =>
    refine h.of_subperm rfl ?_ (fun _ => rfl) fun task ht => by rcases ht with ht | ht <;> cases ht
    rw [h.handles_eq hs]
    simp only [delivers, waitsFor, hs, Desk.handles, Option.toList_some, Option.toList_none,
      List.nil_append]
    rw [← List.append_assoc]
    exact (List.perm_append_singleton task _).subperm
  | @waiting task hs hr =>
    refine hkept.of_subperm rfl ?_ (fun _ => rfl) fun other ht => ?_
    · rw [h.handles_eq hs]
      exact .refl _
    · rcases ht with ht | ht
      · cases ht
      · cases ht
        exact Desk.fronts_of_or hs
  | @collectedTaken task r hm hr =>
    refine h.of_subperm rfl ?_ h.apart fun _ ht => ht
    simp only [Desk.handles, Desk.letGo, delivers, waitsFor, if_pos hm, Option.toList_some,
      List.append_assoc]
    exact (((Desk.perm_hand_out hm out).append_left _).append_left _).subperm

/-- A request that is called off is there. -/
theorem exists_task_of_callsOff (hc : d.desk.Custody out) {task : Nat} (h : task ∈ d.callsOff x) :
    ∃ t, d.desk.tasks[task]? = some t := by
  suffices hlt : task < d.desk.tasks.length from ⟨_, List.getElem?_eq_getElem hlt⟩
  cases x with
  | cancel =>
    simp only [callsOff] at h
    split at h
    · cases h
    · have := hc.last task (.inl (Option.mem_toList.1 h))
      omega
  | cancelTask other =>
    simp only [callsOff] at h
    split at h
    · obtain rfl := List.mem_singleton.1 h
      assumption
    · cases h
  | edit | ask | poll | receive | pass | take | letGo | wait | waitTaken => cases h

/-- A request that is waited for is there. -/
theorem exists_task_of_waitsFor (hc : d.desk.Custody out) {task : Nat}
    (h : d.waitsFor x = some task) : ∃ t, d.desk.tasks[task]? = some t := by
  suffices hm : task ∈ d.desk.handles from
    ⟨_, List.getElem?_eq_getElem (hc.known task (List.mem_append_left _ hm))⟩
  unfold waitsFor at h
  split at h
  · rw [hc.handles_eq h]
    exact List.mem_cons_self
  · split at h
    · cases h
      exact List.mem_append_right _ ‹_›
    · cases h
  · cases h

theorem custody_kept (h : d.desk.Custody out) (xs : List Action) :
    (d.after xs).desk.Custody (out ++ d.delivered xs) := by
  refine noted_keeps (P := fun out' d' => d'.desk.Custody (out ++ out')) ?_ (fun he h => ?_) xs
  · rwa [List.append_nil]
  · rw [← List.append_assoc]
    exact he.custody h

/-- **Every run keeps the requests apart.** -/
theorem custody_after (s : Session) (transport : Transport) (xs : List Action) :
    ((start s transport).after xs).desk.Custody ((start s transport).delivered xs) :=
  custody_kept (d := start s transport) (.fresh transport) xs

end Dialogue

end EditScript
