import Mathlib.Data.List.Induction
import EditScript.Proofs.Session.Run

/-!
# Every text is attempted once

What befell the lines of a session is read off its operations and their answers: which line was
given which text, and which line was attempted. The flags in the queue do not enter into it.

* `Session.Deed`, `Session.history`: what befell the lines in a run, in order.
* `Session.Attempted`, `Session.HasText`: a line has been attempted since its text was last set,
  and what its text was last set to.
* `Session.Recorded`: a queue whose flags and texts are those of a history in which no text was
  attempted by a sequence after another attempt. Every operation keeps this
  (`Session.Effect.recorded`).
* `Session.each_text_attempted_once`: what follows for every run.
-/

namespace EditScript
namespace Session

/-! ## Histories -/

/-- Something that befalls a queued line. -/
inductive Deed where
  /-- The line is given a text. -/
  | set (line : LineId) (text : Text)
  /-- The line is attempted with the other pending lines. -/
  | ran (line : LineId)
  /-- The line is attempted by itself. -/
  | executed (line : LineId)
  deriving DecidableEq

/-- The line that it befalls. -/
def Deed.line : Deed → LineId
  | set line _ | ran line | executed line => line

/-- The line is attempted. -/
def Deed.isAttempt : Deed → Bool
  | set _ _ => false
  | ran _ | executed _ => true

/-- What befalls lines in an operation, as its answer tells. -/
def deeds : Operation → Answer → List Deed
  | .enqueue text, .line id => [.set id text]
  | .acceptReply texts, .lines ids => List.zipWith Deed.set ids texts
  | .editLine id text, .done => [.set id text]
  | .replaceLine _ text, .line id => [.set id text]
  | .executeLine id, .outcome _ => [.executed id]
  | .runPending, .trace trace => trace.map fun e => .ran e.line
  | _, _ => []

/-- What befalls lines in a run. -/
def history : Session → List Operation → List Deed
  | _, [] => []
  | s, op :: ops => deeds op (s.perform op).answer ++ history (s.perform op).session ops

/-- The line was attempted, and its text has not been set since. -/
def Attempted (past : List Deed) (id : LineId) : Prop :=
  ∃ before d after, past = before ++ d :: after ∧ d.line = id ∧ d.isAttempt = true ∧
    ∀ text, .set id text ∉ after

/-- The text of the line was set to `text`, and has not been set since. -/
def HasText (past : List Deed) (id : LineId) (text : Text) : Prop :=
  ∃ before after, past = before ++ .set id text :: after ∧ ∀ other, .set id other ∉ after

/-- The last thing that befell the line is an attempt. -/
def attempted (past : List Deed) (id : LineId) : Bool :=
  past.foldl (fun before d => if d.line = id then d.isAttempt else before) false

variable {past : List Deed} {id : LineId} {d : Deed}

theorem attempted_concat (past : List Deed) (d : Deed) (id : LineId) :
    attempted (past ++ [d]) id = if d.line = id then d.isAttempt else attempted past id := by
  simp [attempted, List.foldl_append]

/-- Where an element can stand in a list with one more at its end. -/
private theorem concat_eq_append_cons {before after : List Deed} {x : Deed}
    (h : past ++ [d] = before ++ x :: after) :
    (past = before ∧ d = x ∧ after = []) ∨
      ∃ rest, after = rest ++ [d] ∧ past = before ++ x :: rest := by
  rcases List.eq_nil_or_concat after with rfl | ⟨rest, y, rfl⟩
  · obtain ⟨hp, hd⟩ := List.append_inj' h rfl
    exact .inl ⟨hp, (List.cons.inj hd).1, rfl⟩
  · rw [List.concat_eq_append, ← List.cons_append, ← List.append_assoc] at h
    obtain ⟨hp, hd⟩ := List.append_inj' h rfl
    exact .inr ⟨rest, by rw [(List.cons.inj hd).1, List.concat_eq_append], hp⟩

theorem Attempted.concat (h : Attempted past id) (hd : ∀ text, d ≠ .set id text) :
    Attempted (past ++ [d]) id := by
  obtain ⟨before, x, after, rfl, hx, ha, hafter⟩ := h
  refine ⟨before, x, after ++ [d], by simp, hx, ha, fun text hm => ?_⟩
  rcases List.mem_append.1 hm with hm | hm
  · exact hafter text hm
  · exact hd text (List.mem_singleton.1 hm).symm

/-- The last thing that befell a line tells whether it was attempted since its text was set. -/
theorem attempted_eq_true_iff : attempted past id = true ↔ Attempted past id := by
  induction past using List.reverseRecOn with
  | nil =>
    constructor
    · intro h; cases h
    · rintro ⟨before, x, after, h, -⟩
      simp at h
  | append_singleton past d ih =>
    rw [attempted_concat]
    by_cases hd : d.line = id
    · rw [if_pos hd]
      constructor
      · intro ha
        exact ⟨past, d, [], rfl, hd, ha, fun _ h => by cases h⟩
      · rintro ⟨before, x, after, h, -, ha, hafter⟩
        rcases concat_eq_append_cons h with ⟨-, rfl, -⟩ | ⟨rest, rfl, -⟩
        · exact ha
        · -- The text was not set at the end, so what stands there is an attempt.
          cases d with
          | set line text =>
            cases hd
            exact absurd (List.mem_append_right rest List.mem_cons_self) (hafter text)
          | ran | executed => rfl
    · rw [if_neg hd, ih]
      constructor
      · intro h
        exact h.concat fun text he => hd (he ▸ rfl)
      · rintro ⟨before, x, after, h, hx, ha, hafter⟩
        rcases concat_eq_append_cons h with ⟨-, rfl, -⟩ | ⟨rest, rfl, hp⟩
        · exact absurd hx hd
        · exact ⟨before, x, rest, hp, hx, ha,
            fun text hm => hafter text (List.mem_append_left [d] hm)⟩

instance (past : List Deed) (id : LineId) : Decidable (Attempted past id) :=
  decidable_of_iff _ attempted_eq_true_iff

theorem HasText.concat {text : Text} (h : HasText past id text)
    (hd : ∀ other, d ≠ .set id other) : HasText (past ++ [d]) id text := by
  obtain ⟨before, after, rfl, hafter⟩ := h
  refine ⟨before, after ++ [d], by simp, fun other hm => ?_⟩
  rcases List.mem_append.1 hm with hm | hm
  · exact hafter other hm
  · exact hd other (List.mem_singleton.1 hm).symm

theorem hasText_set (past : List Deed) (id : LineId) (text : Text) :
    HasText (past ++ [.set id text]) id text := ⟨past, [], rfl, fun _ h => by cases h⟩

/-! ## Queues that agree with a history -/

/-- The flags and texts of a queue are those of the history, and no sequence in the history
attempted a line that had been attempted since its text was set. -/
structure Recorded (q : Queue) (serial : Nat) (past : List Deed) : Prop where
  numbered : q.Numbered serial
  flag : ∀ l ∈ q.lines, l.executed = attempted past l.id
  text : ∀ l ∈ q.lines, HasText past l.id l.text
  once : ∀ before id after, past = before ++ .ran id :: after → attempted before id = false

namespace Recorded

variable {q q' : Queue} {serial serial' : Nat} {text : Text}

theorem empty (serial : Nat) : Recorded .empty serial [] :=
  { numbered := .empty
    flag := fun _ h => by cases h
    text := fun _ h => by cases h
    once := fun _ _ _ h => by simp at h }

/-- A pending line was not attempted since its text was set. -/
theorem pending (h : Recorded q serial past) {l : Line} (hl : l ∈ q.pending) :
    attempted past l.id = false := by
  obtain ⟨hmem, hex⟩ := Queue.mem_pending.1 hl
  rw [← h.flag l hmem, hex]

/-- One line is given a text, whether in a new slot or in an old one. -/
theorem set (h : Recorded q serial past) (hn : q'.Numbered serial')
    (hl : ∀ l ∈ q'.lines, l = ⟨id, text, false⟩ ∨ l ∈ q.lines ∧ l.id ≠ id) :
    Recorded q' serial' (past ++ [.set id text]) := by
  refine ⟨hn, fun l hm => ?_, fun l hm => ?_, fun before i after hp => ?_⟩
  · rw [attempted_concat]
    rcases hl l hm with rfl | ⟨hm, hne⟩
    · exact (if_pos rfl).symm
    · rw [if_neg (show Deed.line (.set id text) ≠ l.id from hne.symm)]
      exact h.flag l hm
  · rcases hl l hm with rfl | ⟨hm, hne⟩
    · exact hasText_set past id text
    · exact (h.text l hm).concat fun other he => hne (by cases he; rfl)
  · rcases concat_eq_append_cons hp with ⟨-, he, -⟩ | ⟨rest, -, hp⟩
    · cases he
    · exact h.once before i rest hp

/-- One line is attempted; a sequence attempts it only if nothing has since its text was set. -/
theorem attempt (h : Recorded q serial past) (ha : d.isAttempt = true)
    (hd : ∀ id, d = .ran id → attempted past id = false) :
    Recorded (q.mark [d.line]) serial (past ++ [d]) := by
  have hset : ∀ id text, d ≠ .set id text := fun id text he => by
    rw [he] at ha
    cases ha
  have hlines := Queue.lines_mark h.numbered.distinct [d.line]
  refine ⟨h.numbered.mark _, fun l hm => ?_, fun l hm => ?_, fun before i after hp => ?_⟩
  · rw [hlines] at hm
    obtain ⟨x, hx, rfl⟩ := List.mem_map.1 hm
    rw [attempted_concat, Queue.noted_id, ha]
    unfold Queue.noted
    by_cases hxd : x.id = d.line
    · rw [if_pos (List.mem_singleton.2 hxd), if_pos hxd.symm]
    · rw [if_neg (fun hm => hxd (List.mem_singleton.1 hm)), if_neg (Ne.symm hxd)]
      exact h.flag x hx
  · rw [hlines] at hm
    obtain ⟨x, hx, rfl⟩ := List.mem_map.1 hm
    rw [Queue.noted_id, Queue.noted_text]
    exact (h.text x hx).concat (hset x.id)
  · rcases concat_eq_append_cons hp with ⟨rfl, he, -⟩ | ⟨rest, -, hp⟩
    · exact hd i he
    · exact h.once before i rest hp

theorem push (h : Recorded q serial past) (text : Text) :
    Recorded (q.push serial text) (serial + 1) (past ++ [.set (.made serial) text]) := by
  refine h.set (h.numbered.extend [text]) fun l hm => ?_
  rcases List.mem_append.1 hm with hm | hm
  · exact .inr ⟨hm, h.numbered.id_ne_made hm (Nat.le_refl _)⟩
  · exact .inl (List.mem_singleton.1 hm)

theorem extend (h : Recorded q serial past) (texts : List Text) :
    Recorded (q.extend serial texts) (serial + texts.length)
      (past ++ List.zipWith Deed.set ((Queue.freshLines serial texts).map Line.id) texts) := by
  induction texts generalizing q serial past with
  | nil => simpa [Queue.extend, Queue.freshLines] using h
  | cons text texts ih =>
    have hnext := ih (h.push text)
    rw [Queue.push_extend, List.append_assoc] at hnext
    rw [Queue.freshLines_cons, List.length_cons, Nat.add_comm texts.length, ← Nat.add_assoc]
    exact hnext

theorem edit (h : Recorded q serial past) (text : Text) :
    Recorded (q.edit id text).2 serial (past ++ [.set id text]) := by
  refine h.set (h.numbered.edit text) fun l hm => ?_
  rw [Queue.lines_edit h.numbered.distinct] at hm
  obtain ⟨x, hx, rfl⟩ := List.mem_map.1 hm
  split
  · rename_i hid
    exact .inl (by rw [hid])
  · rename_i hid
    exact .inr ⟨hx, hid⟩

theorem replace (h : Recorded q serial past) (text : Text) :
    Recorded (q.replace id serial text).2 (serial + 1)
      (past ++ [.set (.made serial) text]) := by
  refine h.set (h.numbered.replace text) fun l hm => ?_
  rw [Queue.lines_replace h.numbered.distinct] at hm
  obtain ⟨x, hx, rfl⟩ := List.mem_map.1 hm
  split
  · exact .inl rfl
  · exact .inr ⟨hx, h.numbered.id_ne_made hx (Nat.le_refl _)⟩

/-- A sequence attempts different lines, none of which was attempted since its text was set. -/
theorem run (h : Recorded q serial past) {ids : List LineId} (hd : ids.Nodup)
    (hp : ∀ id ∈ ids, attempted past id = false) :
    Recorded (q.mark ids) serial (past ++ ids.map .ran) := by
  induction ids generalizing q past with
  | nil => simpa [Queue.mark] using h
  | cons id ids ih =>
    rw [List.nodup_cons] at hd
    have hfirst : Recorded (q.mark [id]) serial (past ++ [.ran id]) :=
      h.attempt (d := .ran id) rfl fun i he => by
        cases he
        exact hp id List.mem_cons_self
    have hrest : ∀ i ∈ ids, attempted (past ++ [.ran id]) i = false := fun i hi => by
      have hne : (Deed.ran id).line ≠ i := fun he => hd.1 (by rwa [← he] at hi)
      rw [attempted_concat, if_neg hne]
      exact hp i (List.mem_cons_of_mem id hi)
    have := ih hfirst hd.2 hrest
    rw [List.append_assoc] at this
    exact this

end Recorded

/-! ## Runs -/

@[simp] theorem deeds_refused (op : Operation) (e : SessionError) : deeds op (.refused e) = [] := by
  cases op <;> rfl

theorem Effect.recorded {s : Session} {op : Operation} {step : Step Answer}
    (he : Effect s op step) (h : Recorded s.queue s.made past) :
    Recorded step.session.queue step.session.made (past ++ deeds op step.answer) := by
  cases he with
  | setState | setCursor | cursorRefused | setSelection | selectionRefused | executeText
  | recordInstruction | recordAssistFailure => simpa [deeds] using h
  | nothingPending => simpa [deeds] using h
  | lineNotFound => simpa using h
  | enqueue text => exact h.push text
  | editLine text _ => exact h.edit text
  | replaceLine text _ => exact h.replace text
  | @executeLine id _ _ _ _ => exact h.attempt (d := .executed id) rfl fun _ he => by cases he
  | acceptReply texts => exact h.extend texts
  | @runPending run _ hr =>
    have hids : run.attempted = s.queue.pending.map Line.id := by
      rw [← hr]
      exact Sequence.attempted_pending s.queue s.state
    have hdeeds : deeds .runPending (.trace run.trace) = run.attempted.map .ran :=
      (List.map_map ..).symm
    show Recorded (s.queue.mark run.attempted) s.made
      (past ++ deeds .runPending (.trace run.trace))
    rw [hdeeds, hids]
    refine h.run h.numbered.distinct.pending fun id hid => ?_
    obtain ⟨l, hl, rfl⟩ := List.mem_map.1 hid
    exact h.pending hl

theorem recorded_performAll (s : Session) (h : Recorded s.queue s.made past)
    (ops : List Operation) :
    Recorded (s.performAll ops).session.queue (s.performAll ops).session.made
      (past ++ history s ops) := by
  induction ops generalizing s past with
  | nil =>
    rw [history, List.append_nil]
    exact h
  | cons op ops ih =>
    have := ih (s.perform op).session ((perform_effect s op).recorded h)
    rw [List.append_assoc] at this
    exact this

/-! ## Nothing is left after a sequence -/

/-- The operation gives a line a text. -/
def Operation.setsText : Operation → Bool
  | .enqueue _ | .editLine _ _ | .replaceLine _ _ | .acceptReply _ => true
  | _ => false

/-- After a sequence nothing is pending. -/
theorem pending_runPending (s : Session) (hq : s.queue.Distinct) :
    s.runPending.session.queue.pending = [] := by
  rw [runPending_session, Queue.pending_mark hq, List.filter_eq_nil_iff]
  intro l hl
  simpa using ⟨l, hl, rfl⟩

/-- Only giving a line a text can make it pending. -/
theorem Effect.pending_eq_nil {s : Session} {op : Operation} {step : Step Answer}
    (he : Effect s op step) (hq : s.queue.Distinct) (hop : op.setsText = false)
    (h : s.queue.pending = []) : step.session.queue.pending = [] := by
  cases he with
  | setState | setCursor | cursorRefused | setSelection | selectionRefused | lineNotFound
  | executeText | nothingPending | recordInstruction | recordAssistFailure => exact h
  | enqueue | editLine | replaceLine | acceptReply => cases hop
  | executeLine | runPending =>
    show (s.queue.mark _).pending = []
    rw [Queue.pending_mark hq, h]
    rfl

theorem pending_performAll (s : Session) (hn : s.queue.Numbered s.made)
    (h : s.queue.pending = []) (ops : List Operation)
    (hops : ∀ op ∈ ops, op.setsText = false) :
    (s.performAll ops).session.queue.pending = [] := by
  induction ops generalizing s with
  | nil => exact h
  | cons op ops ih =>
    have he := perform_effect s op
    exact ih (s.perform op).session (he.numbered hn)
      (he.pending_eq_nil hn.distinct (hops op List.mem_cons_self) h)
      fun x hx => hops x (List.mem_cons_of_mem op hx)

/-- **Every text is attempted once.** After any run, a line is pending if and only if it was not
attempted since its text was last set, and that text is the one it holds. A sequence attempts
exactly these lines, in the order of the queue. No sequence of the run attempted a line that had
been attempted since its text was set. After a sequence, and after any operations that set no
text, another sequence does nothing. -/
theorem each_text_attempted_once (content : Buffer) (settings : Settings)
    (ops : List Operation) :
    let s := ((start content settings).performAll ops).session
    let past := history (start content settings) ops
    (∀ l ∈ s.queue.lines,
      (l.executed = false ↔ ¬Attempted past l.id) ∧ HasText past l.id l.text) ∧
    (s.runPending.answer.map fun e => (e.line, e.text)) =
      (s.queue.lines.filter fun l => ¬Attempted past l.id).map (fun l => (l.id, l.text)) ∧
    (∀ before id after, past = before ++ .ran id :: after → ¬Attempted before id) ∧
    ∀ later, (∀ op ∈ later, op.setsText = false) →
      let t := (s.runPending.session.performAll later).session
      t.runPending = ⟨[], t, []⟩ := by
  intro s past
  have h : Recorded s.queue s.made past :=
    recorded_performAll (start content settings) (.empty 0) ops
  have hflag : ∀ l ∈ s.queue.lines, l.executed = false ↔ ¬Attempted past l.id := fun l hl => by
    rw [← attempted_eq_true_iff, ← h.flag l hl, Bool.not_eq_true]
  refine ⟨fun l hl => ⟨hflag l hl, h.text l hl⟩, ?_, fun before id after hp => ?_, ?_⟩
  · rw [s.runPending_answer, Sequence.lines_trace, Queue.filter_pending, Queue.pending]
    congr 1
    refine List.filter_congr fun l hl => ?_
    have := hflag l hl
    cases hex : l.executed <;> simp_all
  · rw [← attempted_eq_true_iff, h.once before id after hp]
    exact Bool.false_ne_true
  · intro later hlater
    have hn := ((perform_effect s .runPending).numbered h.numbered :)
    exact runPending_of_pending_eq_nil (pending_performAll s.runPending.session hn
      (pending_runPending s h.numbered.distinct) later hlater)

/-- A line that failed is not tried again when the cursor has been moved. -/
theorem failed_line_not_attempted_again :
    let s := ((start ⟨['a']⟩ {}).performAll [.enqueue "DELETE".toList]).session
    let later : List Operation := [.setCursor 1]
    let t := (s.runPending.session.performAll later).session
    (∀ op ∈ later, op.setsText = false) ∧ t.runPending = ⟨[], t, []⟩ := by
  intro s later t
  have hlater : ∀ op ∈ later, op.setsText = false := fun op hop => by
    rw [List.mem_singleton.1 hop]
    rfl
  obtain ⟨-, -, -, hlast⟩ :=
    each_text_attempted_once ⟨['a']⟩ {} [.enqueue "DELETE".toList]
  exact ⟨hlater, hlast later hlater⟩

end Session
end EditScript
