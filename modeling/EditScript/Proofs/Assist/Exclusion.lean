import EditScript.Proofs.Assist.Custody

/-!
# One request at a time

A request can be started if none that is in the slot goes on, and a start that is refused leaves no
trace.

* `Dialogue.StartOutcome`, `Dialogue.startOutcome`: what comes of a start.
* `Dialogue.unrefused`, `Dialogue.run_unrefused`: a run without the starts that were refused
  comes to the same.
* `Desk.Attended`, `Dialogue.Effect.attended`: as long as no request is taken out of the slot, what
  has not ended is what the slot is for.
* `Dialogue.requests_one_at_a_time`: what follows for every run.
-/

namespace EditScript

open Assist

namespace Assist.Desk

/-- Every request that has not ended is the one that the slot is for. -/
def Attended (d : Desk) : Prop := ∀ task, d.isFinished task = false → d.fronts task

end Assist.Desk

namespace Dialogue

variable {d : Dialogue} {x : Action} {turn : Turn} {out : List Nat} {task : Nat}

/-! ## Starts -/

/-- What comes of a start. It is refused if the slot holds a request that has not ended; there is
nothing to start it in while a request is being waited for through the slot; and it is accepted
otherwise. Unless it is accepted, nothing changes. If it is, one entry is appended to the log, the
rest of the session stays as it was, and the request is put into the slot. -/
structure StartOutcome (d : Dialogue) (instruction : Text) (turn : Turn) : Prop where
  busy : turn.answer = some (.refused .busy) ↔
    ∃ task, d.desk.slot = some task ∧ d.desk.isFinished task = false
  blocked : turn.answer = none ↔ d.desk.awaited.isSome = true
  accepted : turn.answer = some .done ↔ d.desk.awaited = none ∧
    ∀ task, d.desk.slot = some task → d.desk.isFinished task = true
  unchanged : turn.answer ≠ some .done → turn.dialogue = d ∧ turn.events = []
  changed : turn.answer = some .done → turn.events = [] ∧ turn.dialogue =
    { d with
      session := { d.session with
        log := d.session.log.push ⟨.instruction, true, String.ofList instruction⟩ }
      desk := { d.desk with
        tasks := d.desk.tasks ++ [⟨d.request instruction, .queued⟩]
        slot := some d.desk.tasks.length } }

theorem startOutcome (hc : d.desk.Custody out) (instruction : Text) :
    StartOutcome d instruction (d.act (.ask instruction)) := by
  have he := act_effect d (.ask instruction)
  generalize d.act (.ask instruction) = turn at he ⊢
  have hbusy := Desk.isBusy_eq_true_iff (d := d.desk)
  cases he with
  | idle hi =>
    cases hi with
    | blocked _ hw =>
      have hs := hc.apart hw
      exact {
        busy := by simp [hs]
        blocked := by simp [hw]
        accepted := by simp [Option.isSome_iff_ne_none.1 hw]
        unchanged := fun _ => ⟨rfl, rfl⟩
        changed := nofun }
    | busy _ hw hb =>
      obtain ⟨task, hs, hf⟩ := hbusy.1 hb
      exact {
        busy := by simp [hs, hf]
        blocked := by simp [hw]
        accepted := by simp [hs, hf]
        unchanged := fun _ => ⟨rfl, rfl⟩
        changed := nofun }
    | notFound hx | notThere hx => rcases hx with hx | hx <;> cases hx
  | asked _ hw hb =>
    have hfree : ∀ task, d.desk.slot = some task → d.desk.isFinished task = true := by
      intro task hs
      simpa [Desk.isBusy, hs] using hb
    exact {
      busy := by simpa using hfree
      blocked := by simp [hw]
      accepted := by simpa [hw] using hfree
      unchanged := fun h => absurd rfl h
      changed := fun _ => ⟨rfl, rfl⟩ }

/-- The answer says that a request is refused. -/
def isRefusal : Option Answer → Bool
  | some (.refused _) => true
  | _ => false

/-- Nothing changes when a request is refused. -/
theorem Effect.refused (he : Effect d x turn) (h : isRefusal turn.answer = true) :
    turn.dialogue = d ∧ turn.events = [] := by
  cases he with
  | idle => exact ⟨rfl, rfl⟩
  | edit | asked | polled | received | passed | canceled | canceledTask | taken | letGo
  | collected | waiting | collectedTaken => cases h

/-- The turns of a run. -/
def turns : Dialogue → List Action → List Turn := noted fun _ _ turn => [turn]

/-- The actions of a run without the starts that are refused. -/
def unrefused : Dialogue → List Action → List Action :=
  noted fun _ x turn => if isRefusal turn.answer then [] else [x]

/-- **A run without the starts that are refused comes to the same**, and all other actions have
the same turns in it. -/
theorem run_unrefused (d : Dialogue) (xs : List Action) :
    d.after (d.unrefused xs) = d.after xs ∧
      d.turns (d.unrefused xs) = (d.turns xs).filter fun turn => !isRefusal turn.answer := by
  induction xs generalizing d with
  | nil => exact ⟨rfl, rfl⟩
  | cons x xs ih =>
    obtain ⟨hafter, hturns⟩ := ih (d.act x).dialogue
    have hall : d.turns (x :: xs) = d.act x :: (d.act x).dialogue.turns xs := rfl
    cases h : isRefusal (d.act x).answer with
    | true =>
      obtain ⟨hsame, -⟩ := (act_effect d x).refused h
      have hrest : d.unrefused (x :: xs) = d.unrefused xs := by
        show (if isRefusal (d.act x).answer then [] else [x]) ++ unrefused (d.act x).dialogue xs = _
        rw [if_pos h, List.nil_append, hsame]
      have hskip : d.after (x :: xs) = d.after xs := congrArg (after · xs) hsame
      rw [hsame] at hafter hturns
      rw [hrest, hall, List.filter_cons_of_neg (by simp [h]), hsame, hskip]
      exact ⟨hafter, hturns⟩
    | false =>
      have hrest : d.unrefused (x :: xs) = x :: unrefused (d.act x).dialogue xs := by
        show (if isRefusal (d.act x).answer then [] else [x]) ++ unrefused (d.act x).dialogue xs = _
        rw [if_neg (by simp [h])]
        rfl
      rw [hrest, hall, List.filter_cons_of_pos (by simp [h])]
      exact ⟨hafter, congrArg (d.act x :: ·) hturns⟩

/-! ## What goes on unattended -/

/-- An action that does not take a request out of the slot leaves none unattended. -/
theorem Effect.attended (he : Effect d x turn) (hx : x ≠ .take) (hc : d.desk.Custody out)
    (h : d.desk.Attended) : turn.dialogue.desk.Attended := by
  intro task htask
  obtain ⟨t', ht', hf'⟩ := Desk.isFinished_eq_false_iff.1 htask
  rcases he.touch_or_asked ht' with ⟨t, ht, htouch⟩ | ⟨instruction, hasks, -⟩
  · have hf : d.desk.isFinished task = false := by
      refine Desk.isFinished_eq_false_iff.2 ⟨t, ht, ?_⟩
      refine Task.isFinished_eq_false_iff.2 fun r hp => ?_
      rw [htouch.finished hp] at hf'
      exact Task.isFinished_eq_false_iff.1 hf' r hp
    have hfront := h task hf
    cases he with
    | idle | edit | polled | received | passed | canceled | canceledTask | letGo
    | collectedTaken => exact hfront
    | asked _ hw hb =>
      -- The slot would hold a request that goes on.
      rcases hfront with hs | hs
      · rw [Desk.isBusy_eq_true_iff.2 ⟨task, hs, hf⟩] at hb
        cases hb
      · rw [hw] at hs
        cases hs
    | taken => exact absurd rfl hx
    | collected hs hr =>
      obtain rfl := hc.eq_of_fronts hs hfront
      rw [Desk.isFinished_of_result? hr] at hf
      cases hf
    | waiting hs => exact .inr (congrArg some (hc.eq_of_fronts hs hfront).symm)
  · cases he with
    | idle hi =>
      rw [hi.asks] at hasks
      cases hasks
    | asked =>
      cases hasks
      exact .inl rfl
    | edit | polled | received | passed | canceled | canceledTask | taken | letGo | collected
    | waiting | collectedTaken => cases hasks

theorem attended_after (s : Session) (transport : Transport) {xs : List Action}
    (h : .take ∉ xs) : ((start s transport).after xs).desk.Attended := by
  refine run_keeps (P := fun xs d => .take ∉ xs → d.desk.Attended) (fun _ task ht => ?_)
    (fun xs x ih hx => ?_) xs h
  · cases ht
  · have hlast : x ≠ .take := fun he => hx (by simp [he])
    have hfront : .take ∉ xs := fun hm => hx (List.mem_append_left _ hm)
    exact (act_effect _ x).attended hlast (custody_after s transport xs) (ih hfront)

/-- **One request at a time.** In every dialogue that a run reaches, a start is refused if the slot
holds a request that has not ended, and not otherwise, and it changes nothing then, whatever it
would have started; the run comes to the same without the starts that were refused. A start that is
accepted appends one entry to the log and leaves the rest of the session as it was. As long as
nothing is taken out of the slot, at most one request has not ended. -/
theorem requests_one_at_a_time (s : Session) (transport : Transport) (xs : List Action) :
    let d := (start s transport).after xs
    (∀ instruction, StartOutcome d instruction (d.act (.ask instruction))) ∧
    (∀ task, d.desk.slot = some task → d.desk.isFinished task = false →
      ∀ (starting : InPlace Nat) (past : List Event),
        startInSlot starting ⟨d, past⟩ = .error .busy ⟨d, past⟩) ∧
    (start s transport).after ((start s transport).unrefused xs) = d ∧
    (start s transport).turns ((start s transport).unrefused xs) =
      ((start s transport).turns xs).filter (fun turn => !isRefusal turn.answer) ∧
    (.take ∉ xs → ∀ task other, d.desk.isFinished task = false →
      d.desk.isFinished other = false → task = other) := by
  intro d
  have hcustody : d.desk.Custody _ := custody_after s transport xs
  obtain ⟨hafter, hturns⟩ := run_unrefused (start s transport) xs
  refine ⟨startOutcome hcustody, fun task hs hf starting past => ?_, hafter, hturns,
    fun htake task other ht ho => ?_⟩
  · exact startInSlot_of_busy (Desk.isBusy_eq_true_iff.2 ⟨task, hs, hf⟩) starting past
  · have hattended : d.desk.Attended := attended_after s transport htake
    have htask := hcustody.last task (hattended task ht)
    have hother := hcustody.last other (hattended other ho)
    omega

/-- A request that goes on while another one is refused, and is not the only one that does after it
has been taken. -/
theorem second_start_refused :
    let s := Session.start ⟨[]⟩ {}
    let xs := [Action.ask "one".toList, .ask "two".toList]
    let d := (start s .silent).after xs
    StartOutcome d "three".toList (d.act (.ask "three".toList)) ∧
    (d.act (.ask "three".toList)).answer = some (.refused .busy) ∧
    startInSlot (send "three".toList) ⟨d, []⟩ = .error .busy ⟨d, []⟩ ∧
    (start s .silent).unrefused xs = [.ask "one".toList] ∧
    (∀ task, d.desk.isFinished task = false → task = 0) ∧
    ((start s .silent).after [.ask "one".toList, .take, .ask "two".toList]).desk.tasks.countP
      (fun t => !t.isFinished) = 2 := by
  intro s xs d
  obtain ⟨hstart, hrefused, -, -, hone⟩ := requests_one_at_a_time s .silent xs
  have htake : .take ∉ xs := by simp [xs]
  exact ⟨hstart _, rfl, hrefused 0 rfl rfl _ _, rfl, fun task ht => hone htake task 0 ht rfl, rfl⟩

end Dialogue

end EditScript
