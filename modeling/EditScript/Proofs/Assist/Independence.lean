import EditScript.Proofs.Assist.Ledger
import EditScript.Proofs.Session.History

/-!
# Editing and asking keep out of each other's way

The session is the same whether or not requests are made on the way, but for their entries in the
log; and a request is the same whatever is done to the session after it was started.

* `Dialogue.requested`, `Dialogue.request_of_handover`: what a request says is fixed when it is
  started.
* `Dialogue.edits`: the operations of the session in a run.
* `Dialogue.tells`: the entries that an action appends to the log, and whether a request is the
  reason.
* `Dialogue.Effect.apart`, `Dialogue.run_apart`: what a run does to the session is what its
  operations of the session do.
* `Dialogue.asking_and_editing_independent`: what follows for every run.
-/

namespace EditScript

open Assist

namespace Dialogue

variable {d : Dialogue} {x : Action} {turn : Turn} {task : Nat} {t : Task}

/-! ## Operations of the session -/

/-- The operations of the session in a run. -/
def edits (xs : List Action) : List Session.Operation :=
  xs.filterMap fun
    | .edit op => some op
    | _ => none

/-- What an operation of the session answers. -/
def editAnswer (_ : Dialogue) (x : Action) (turn : Turn) : List Session.Answer :=
  match x, turn.answer with
  | .edit _, some (.session answer) => [answer]
  | _, _ => []

/-- An entry that is appended to the log. -/
structure Told where
  /-- It tells of an instruction for which a request was started. -/
  asked : Bool
  /-- The entry. -/
  entry : Log.Entry

/-- The entries that an action appends to the log, as its answer tells. -/
def tells (d : Dialogue) (x : Action) (turn : Turn) : List Told :=
  match x, turn.answer with
  | .edit op, some (.session answer) => (d.session.entries op answer).map fun e => ⟨false, e⟩
  | .ask instruction, some .done => [⟨true, ⟨.instruction, true, String.ofList instruction⟩⟩]
  | _, _ => []

/-- What an action does to the session is what its operation does, if it has one. -/
structure Apart (t : Session) (log : Log) (ops : List Session.Operation) (session : Session)
    (answers : List Session.Answer) (events : List Event) (told : List Told) : Prop where
  session : session = { (t.performAll ops).session with
    log := log.pushAll (told.map Told.entry) }
  answers : answers = (t.performAll ops).answer
  events : events = (t.performAll ops).events
  told : (told.filter fun e => !e.asked).map Told.entry = t.told ops

theorem Effect.apart {s : Session} {log : Log} (he : Effect d x turn)
    (h : d.session = { s with log := log }) :
    Apart s log (edits [x]) turn.dialogue.session (editAnswer d x turn) turn.events
      (tells d x turn) := by
  cases he with
  | idle hi =>
    cases hi with
    | blocked hx =>
      rcases Action.eq_of_takesSlot hx with ⟨_, rfl⟩ | rfl | rfl <;> exact ⟨h, rfl, rfl, rfl⟩
    | notFound hx | notThere hx => rcases hx with rfl | rfl <;> exact ⟨h, rfl, rfl, rfl⟩
    | busy | nothingAwaited | unfinished | notTaken => exact ⟨h, rfl, rfl, rfl⟩
  | edit op =>
    obtain ⟨session, assistant, desk⟩ := d
    obtain rfl := h
    have hrun : s.performAll (edits [.edit op]) =
        ⟨[(s.perform op).answer], (s.perform op).session, (s.perform op).events⟩ := by
      show (⟨_, _, (s.perform op).events ++ []⟩ : Session.Step (List Session.Answer)) = _
      rw [List.append_nil]
      rfl
    have htold : s.told (edits [.edit op]) = s.entries op (s.perform op).answer :=
      List.append_nil _
    have hentries : ∀ es : List Log.Entry, es.map (Told.entry ∘ fun e => ⟨false, e⟩) = es :=
      List.map_id
    have hkept : ∀ es : List Log.Entry,
        (es.map fun e => (⟨false, e⟩ : Told)).filter (fun e => !e.asked) =
          es.map fun e => ⟨false, e⟩ := by
      intro es
      simp [List.filter_eq_self]
    constructor
    · simp only [tells, hrun, Session.perform_relog, Session.entries_relog, List.map_map, hentries]
    · simp only [editAnswer, hrun, Session.perform_relog]
    · simp only [hrun, Session.perform_relog]
    · simp only [tells, htold, Session.perform_relog, Session.entries_relog, hkept, List.map_map,
        hentries]
  | asked instruction => exact ⟨by rw [h]; rfl, rfl, rfl, rfl⟩
  | polled | received | passed | canceled | canceledTask | taken | letGo | collected | waiting
  | collectedTaken => exact ⟨h, rfl, rfl, rfl⟩

/-- **What a run does to the session is what its operations of the session do**, whatever else is
done on the way, but for the entries of requests in the log. -/
theorem run_apart (s : Session) (log : Log) (h : d.session = { s with log := log })
    (xs : List Action) :
    Apart s log (edits xs) (d.after xs).session (noted editAnswer d xs)
      (noted (fun _ _ turn => turn.events) d xs) (noted tells d xs) := by
  induction xs generalizing d s log with
  | nil => exact ⟨h, rfl, rfl, rfl⟩
  | cons x xs ih =>
    have hfirst := (act_effect d x).apart h
    have hlater := ih _ _ hfirst.session
    have hedits : edits (x :: xs) = edits [x] ++ edits xs := List.filterMap_append (l := [x])
    rw [hedits]
    have hpush : ∀ es es' : List Log.Entry,
        (log.pushAll es).pushAll es' = log.pushAll (es ++ es') :=
      fun es es' => List.foldl_append.symm
    constructor
    · rw [Session.performAll_append, noted, List.map_append, ← hpush]
      exact hlater.session
    · rw [Session.performAll_append, noted, hfirst.answers, hlater.answers]
    · rw [Session.performAll_append, noted, hfirst.events, hlater.events]
    · rw [Session.told_append, noted, List.filter_append, List.map_append, hfirst.told,
        hlater.told]

theorem Effect.told_asked (he : Effect d x turn) :
    ((tells d x turn).filter Told.asked).map Told.entry =
      (asks d x turn).map fun q => ⟨.instruction, true, String.ofList q.instruction⟩ := by
  cases he with
  | idle hi =>
    cases hi with
    | blocked hx => rcases Action.eq_of_takesSlot hx with ⟨_, rfl⟩ | rfl | rfl <;> rfl
    | notFound hx | notThere hx => rcases hx with rfl | rfl <;> rfl
    | busy | nothingAwaited | unfinished | notTaken => rfl
  | edit op => simp [tells, asks]
  | asked | polled | received | passed | canceled | canceledTask | taken | letGo | collected
  | waiting | collectedTaken => rfl

/-- The entries that requests leave in the log are those of the requests that are started. -/
theorem told_asked (d : Dialogue) (xs : List Action) :
    ((noted tells d xs).filter Told.asked).map Told.entry =
      (d.asked xs).map fun q => ⟨.instruction, true, String.ofList q.instruction⟩ := by
  induction xs generalizing d with
  | nil => rfl
  | cons x xs ih =>
    rw [noted, List.filter_append, List.map_append, (act_effect d x).told_asked, ih, asked, noted,
      List.map_append]

/-! ## Requests -/

/-- The request that an instruction leads to in a session that is opened with some settings. -/
def Asked.request (q : Asked) (settings : Settings) : Request :=
  .build (Assistant.ofSettings settings.assist).systemPrompt (q.state.context settings.render)
    q.instruction

/-- Every task has the request that its instruction led to. -/
theorem Effect.requested {s : Settings} {asked : List Asked} (he : Effect d x turn)
    (ha : d.assistant = .ofSettings s.assist) (hs : d.session.settings = s)
    (h : ∀ task t, d.desk.tasks[task]? = some t →
      ∃ q ∈ asked, q.task = task ∧ t.request = q.request s) {t' : Task}
    (ht' : turn.dialogue.desk.tasks[task]? = some t') :
    ∃ q ∈ asked ++ asks d x turn, q.task = task ∧ t'.request = q.request s := by
  rcases he.touch_or_asked ht' with ⟨t, ht, htouch⟩ | ⟨instruction, hasks, rfl⟩
  · obtain ⟨q, hq, hqt, hreq⟩ := h task t ht
    exact ⟨q, List.mem_append_left _ hq, hqt, htouch.request.trans hreq⟩
  · refine ⟨_, List.mem_append_right _ (by rw [hasks]; exact List.mem_singleton_self _), rfl, ?_⟩
    rw [Asked.request, ← ha, ← hs]
    rfl

theorem settings_after (d : Dialogue) (xs : List Action) :
    (d.after xs).session.settings = d.session.settings := by
  rw [(run_apart d.session d.session.log rfl xs).session]
  exact Session.settings_performAll d.session (edits xs)

theorem requested_after (s : Session) (transport : Transport) (xs : List Action) :
    ∀ task t, ((start s transport).after xs).desk.tasks[task]? = some t →
      ∃ q ∈ (start s transport).asked xs, q.task = task ∧ t.request = q.request s.settings := by
  refine run_keeps (d := start s transport) (P := fun xs d =>
    ∀ task t, d.desk.tasks[task]? = some t →
      ∃ q ∈ (start s transport).asked xs, q.task = task ∧ t.request = q.request s.settings)
    (fun _ _ ht => by cases ht) (fun xs x h task t ht => ?_) xs
  rw [asked, noted_concat]
  exact (act_effect _ x).requested (assistant_after _ xs) (settings_after _ xs) h ht

/-- **What a request says is fixed when it is started.** -/
theorem request_of_handover (s : Session) (transport : Transport) (xs : List Action)
    {h : Handover} (hm : h ∈ (start s transport).handovers xs) :
    ∃ ys instruction zs, xs = ys ++ .ask instruction :: zs ∧
      let d := (start s transport).after ys
      (d.act (.ask instruction)).answer = some .done ∧ h.task = d.desk.tasks.length ∧
      h.request = .build (Assistant.ofSettings s.settings.assist).systemPrompt
        (d.session.state.context s.settings.render) instruction := by
  obtain ⟨t, ht, hreq, -⟩ := (ledger_after s transport xs).ran h hm
  obtain ⟨q, hq, hqt, htq⟩ := requested_after s transport xs h.task t ht
  obtain ⟨ys, x, zs, hxs, hask⟩ := mem_noted.1 hq
  obtain ⟨rfl, hdone, htask, hstate⟩ := mem_asks.1 hask
  refine ⟨ys, q.instruction, zs, hxs, hdone, hqt.symm.trans htask, ?_⟩
  rw [← hreq, htq, ← hstate]
  rfl

/-- The transport is given the requests that reach it, and nothing else. -/
theorem transport_after (d : Dialogue) (xs : List Action) : (d.after xs).desk.transport =
    (d.handovers xs).foldl (fun transport h => (transport.send h.request).2) d.desk.transport := by
  refine run_keeps (P := fun xs d' => d'.desk.transport = (d.handovers xs).foldl
    (fun transport h => (transport.send h.request).2) d.desk.transport) rfl (fun xs x ih => ?_) xs
  rw [(act_effect _ x).transport, ih, handovers, noted_concat, List.foldl_append]

/-- **Asking and editing are independent.** A request that reaches the transport in a run is built
of the state that the session was in when it was started, whatever was done in between, and the
transport is given nothing else. The operations of the session have the answers and the events that
they have without the requests, and lead to the same session, but for the log: this is told of each
instruction for which a request was started, and else of what it is told of without the
requests. -/
theorem asking_and_editing_independent (s : Session) (transport : Transport) (xs : List Action) :
    let d₀ := start s transport
    let d := d₀.after xs
    let alone := s.performAll (edits xs)
    let told := noted tells d₀ xs
    (∀ h ∈ d₀.handovers xs, ∃ ys instruction zs, xs = ys ++ .ask instruction :: zs ∧
      ((d₀.after ys).act (.ask instruction)).answer = some .done ∧
      h.task = (d₀.after ys).desk.tasks.length ∧
      h.request = .build (Assistant.ofSettings s.settings.assist).systemPrompt
        ((d₀.after ys).session.state.context s.settings.render) instruction) ∧
    d.desk.transport =
      (d₀.handovers xs).foldl (fun transport h => (transport.send h.request).2) transport ∧
    noted editAnswer d₀ xs = alone.answer ∧
    noted (fun _ _ turn => turn.events) d₀ xs = alone.events ∧
    d.session = { alone.session with log := s.log.pushAll (told.map Told.entry) } ∧
    alone.session.log = s.log.pushAll ((told.filter fun e => !e.asked).map Told.entry) ∧
    (told.filter Told.asked).map Told.entry =
      (d₀.asked xs).map fun q => ⟨.instruction, true, String.ofList q.instruction⟩ := by
  intro d₀ d alone told
  have hapart := run_apart (d := d₀) s s.log rfl xs
  refine ⟨fun h hm => request_of_handover s transport xs hm, transport_after d₀ xs, hapart.answers,
    hapart.events, hapart.session, ?_, told_asked d₀ xs⟩
  rw [hapart.told]
  exact Session.log_performAll s (edits xs)

/-- A text that is inserted after a request was started, and before its task runs. -/
theorem insertion_after_ask :
    let s := Session.start ⟨[]⟩ {}
    let insert := Session.Operation.executeText "INSERT b".toList
    let xs := [Action.ask "one".toList, .edit insert, .poll 0]
    let d₀ := start s (.scripted [])
    (∃ h ∈ d₀.handovers xs, ∃ ys instruction zs, xs = ys ++ .ask instruction :: zs ∧
      h.request = .build (Assistant.ofSettings s.settings.assist).systemPrompt
        ((d₀.after ys).session.state.context s.settings.render) instruction) ∧
    (d₀.after xs).session.state = (s.performAll [insert]).session.state ∧
    (s.performAll [insert]).session.state ≠ s.state ∧
    ((noted tells d₀ xs).filter Told.asked).map Told.entry = [⟨.instruction, true, "one"⟩] := by
  intro s insert xs d₀
  obtain ⟨hrequest, -, -, -, hsession, -, hasked⟩ :=
    asking_and_editing_independent s (.scripted []) xs
  have hm : (⟨0, d₀.request "one".toList, 0⟩ : Handover) ∈ d₀.handovers xs :=
    List.mem_singleton_self _
  obtain ⟨ys, instruction, zs, hxs, -, -, hbuilt⟩ := hrequest _ hm
  have hstate : (d₀.after xs).session.state = _ := congrArg Session.state hsession
  exact ⟨⟨_, hm, ys, instruction, zs, hxs, hbuilt⟩, hstate, by decide, hasked⟩

end Dialogue

end EditScript
