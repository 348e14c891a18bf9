import EditScript.Codec.Assist
import EditScript.Proofs.Codec.LineId
import EditScript.Proofs.Codec.State
import EditScript.Proofs.Command.RoundTrip

/-!
# All formats lose nothing

The values that are exchanged with the outside: states and what they are made of, commands, queued
lines, settings, requests and replies. Each is read back from the document that it is written as.

* `Command.faithful`, `Line.faithful`, `Queue.faithful`, `Settings.faithful`,
  `Assist.Request.faithful`, `Assist.Reply.faithful`: the formats of these values.
* `Line.Named`, `Queue.Named`: every id is a UUID. That is so of all lines that are read, and of all
  others once the ids that were made here are given their UUIDs.
* `all_formats_survive`: the formats together, and what is read where a state is expected.
-/

namespace EditScript

open Json (Faithful written_nat offset?_nat lt_of_offset?)

/-! ## Commands -/

namespace Command

theorem isStrict_toJson (c : Command) : c.toJson.isStrict = true := by
  cases c <;> rfl

/-- A command that is written is read by its tag. -/
theorem ofJson?_toJson (c : Command) : ofJson? c.toJson = ofTagged? c.tag.toList c.toJson := by
  have hop : c.toJson.fields ["op"] = some [some (.ofString c.tag)] := by
    cases c <;> rfl
  obtain ⟨members, hmembers⟩ : ∃ members, c.toJson = .object members := ⟨_, rfl⟩
  unfold ofJson?
  rw [if_pos c.isStrict_toJson]
  rw [hmembers] at hop ⊢
  simp only [hop]
  rfl

theorem inRange_of_ofTagged? {tag : Text} {arguments : Json} {c : Command}
    (h : ofTagged? tag arguments = some c) : c.InRange := by
  unfold ofTagged? at h
  split at h
  · split at h
    · obtain ⟨position, hposition, h⟩ := Option.bind_eq_some_iff.1 h
      cases h
      exact lt_of_offset? hposition
    · cases h
  · split at h
    · split at h
      · obtain ⟨start, hstart, h⟩ := Option.bind_eq_some_iff.1 h
        obtain ⟨stop, hstop, h⟩ := Option.bind_eq_some_iff.1 h
        cases h
        exact ⟨lt_of_offset? hstart, lt_of_offset? hstop⟩
      · cases h
    · split at h
      · split at h
        · obtain ⟨text, -, h⟩ := Option.bind_eq_some_iff.1 h
          cases h
          trivial
        · cases h
      · split at h
        · obtain ⟨-, -, rfl⟩ := Option.map_eq_some_iff.1 h
          trivial
        · cases h

theorem inRange_of_ofJson? {v : Json} {c : Command} (h : ofJson? v = some c) : c.InRange := by
  unfold ofJson? at h
  split at h
  · split at h
    · split at h
      · obtain ⟨tag, -, h⟩ := Option.bind_eq_some_iff.1 h
        exact inRange_of_ofTagged? h
      · cases h
    · obtain ⟨tag, -, h⟩ := Option.bind_eq_some_iff.1 h
      exact inRange_of_ofTagged? h
    · cases h
  · cases h

theorem faithful : Faithful Command.toJson Command.ofJson? Command.InRange where
  read?_write c h := by
    rw [ofJson?_toJson]
    cases c with
    | move position =>
      show ofTagged? "move".toList (move position).toJson = some (move position)
      show (do return move (← (Json.nat position).offset?)) = some (move position)
      rw [offset?_nat h]
      rfl
    | select start stop =>
      show ofTagged? "select".toList (select start stop).toJson = some (select start stop)
      show (do return select (← (Json.nat start).offset?) (← (Json.nat stop).offset?)) =
        some (select start stop)
      rw [offset?_nat h.1, offset?_nat h.2]
      rfl
    | insert text =>
      show ofTagged? "insert".toList (insert text).toJson = some (insert text)
      rfl
    | delete => rfl
  written_write c h := by
    cases c with
    | move position =>
      show Json.object [Json.member "op" (.ofString "move"),
        Json.member "position" (Json.nat position).written] = (move position).toJson
      rw [written_nat h]
      rfl
    | select start stop =>
      show Json.object [Json.member "op" (.ofString "select"),
        Json.member "start" (Json.nat start).written, Json.member "end" (Json.nat stop).written] =
          (select start stop).toJson
      rw [written_nat h.1, written_nat h.2]
      rfl
    | insert text => rfl
    | delete => rfl
  fits_of_read? v c h := inRange_of_ofJson? h

end Command

/-! ## Queued lines -/

theorem LineId.ofJson?_string (t : Text) : ofJson? (.string t) = ofText? t := rfl

theorem LineId.faithful : Faithful LineId.toJson LineId.ofJson? LineId.IsUuid where
  read?_write id h := by
    cases id with
    | made => cases h
    | uuid value =>
      have hwritten : (uuid value).toJson = .string (hyphenated value) := by
        simp only [toJson, display, Json.ofString, String.toList_ofList]
      rw [hwritten, ofJson?_string, ofText?_hyphenated]
  written_write _ _ := rfl
  fits_of_read? v id h := by
    obtain ⟨t, -, ht⟩ := Option.bind_eq_some_iff.1 h
    exact isUuid_of_ofText? ht

/-- The id of the line is a UUID. -/
def Line.Named (l : Line) : Prop := l.id.IsUuid

/-- The ids of all lines are UUIDs. -/
def Queue.Named (q : Queue) : Prop := ∀ l ∈ q.lines, l.Named

/-- The line with a UUID for the number that it was made under. -/
def Line.named (names : Nat → BitVec 128) (l : Line) : Line := { l with id := l.id.named names }

/-- The queue with UUIDs for the numbers that its lines were made under. -/
def Queue.named (names : Nat → BitVec 128) (q : Queue) : Queue := ⟨q.lines.map (Line.named names)⟩

theorem Line.named_named (names : Nat → BitVec 128) (l : Line) : (l.named names).Named :=
  LineId.isUuid_named names l.id

theorem Queue.named_named (names : Nat → BitVec 128) (q : Queue) : (q.named names).Named := by
  intro l hl
  obtain ⟨l, -, rfl⟩ := List.mem_map.1 hl
  exact l.named_named names

theorem Line.faithful : Faithful Line.toJson Line.ofJson? Line.Named where
  read?_write l h := by
    show (do return ⟨← LineId.ofJson? l.id.toJson, l.text, l.executed⟩) = some l
    rw [LineId.faithful.read?_write l.id h]
    rfl
  written_write _ _ := rfl
  fits_of_read? v l h := by
    unfold Line.ofJson? at h
    split at h
    · obtain ⟨id, hid, h⟩ := Option.bind_eq_some_iff.1 h
      obtain ⟨text, -, h⟩ := Option.bind_eq_some_iff.1 h
      obtain ⟨executed, -, h⟩ := Option.bind_eq_some_iff.1 h
      cases h
      exact LineId.faithful.fits_of_read? _ id hid
    · cases h

theorem Queue.faithful : Faithful Queue.toJson Queue.ofJson? Queue.Named where
  read?_write q h := by
    show (Json.list? Line.ofJson? (.array (q.lines.map Line.toJson))).map Queue.mk = some q
    rw [Line.faithful.list.read?_write q.lines h]
    rfl
  written_write q h := by
    show Json.object [Json.member "lines" (Json.array (q.lines.map Line.toJson)).written] = q.toJson
    rw [Line.faithful.list.written_write q.lines h]
    rfl
  fits_of_read? v q h := by
    unfold Queue.ofJson? at h
    split at h
    · obtain ⟨lines, hlines, rfl⟩ := Option.map_eq_some_iff.1 h
      exact Line.faithful.list.fits_of_read? _ lines hlines
    · cases h

/-! ## Settings -/

/-- What holds of the default and of all that is read holds of the field. -/
theorem Json.of_orDefault {α : Type} {item? : Json → Option α} {otherwise a : α} {P : α → Prop}
    {field : Option Json} (hother : P otherwise) (hitem : ∀ v a, item? v = some a → P a)
    (h : Json.orDefault item? otherwise field = some a) : P a := by
  cases field with
  | none => exact Option.some.inj h ▸ hother
  | some v => exact hitem v a h

theorem Json.lt_of_orDefault {otherwise n : Nat} {field : Option Json}
    (hother : otherwise < Text.offsetLimit) (h : Json.orDefault offset? otherwise field = some n) :
    n < Text.offsetLimit :=
  of_orDefault (P := (· < Text.offsetLimit)) hother (fun _ _ => lt_of_offset?) h

namespace Settings

/-- The width is 64-bit. -/
def Render.InRange (r : Render) : Prop := r.lineNumberWidth < Text.offsetLimit

/-- The time span is 64-bit. -/
def Assist.InRange (a : Assist) : Prop := a.timeoutSeconds < Text.offsetLimit

/-- The capacity is 64-bit. -/
def Session.InRange (s : Session) : Prop := s.logCapacity < Text.offsetLimit

/-- All numbers are 64-bit. -/
structure InRange (s : Settings) : Prop where
  render : s.render.InRange
  assist : s.assist.InRange
  session : s.session.InRange

theorem Render.faithful : Faithful Render.toJson Render.ofJson? Render.InRange where
  read?_write r h := by
    show (do return ⟨r.cursorMarker, ← (Json.nat r.lineNumberWidth).offset?⟩) = some r
    rw [offset?_nat h]
    rfl
  written_write r h := by
    show Json.object [Json.member "cursor_marker" (.string r.cursorMarker),
      Json.member "line_number_width" (Json.nat r.lineNumberWidth).written] = r.toJson
    rw [written_nat h]
    rfl
  fits_of_read? v r h := by
    unfold Render.ofJson? at h
    simp only at h
    split at h
    · obtain ⟨marker, -, h⟩ := Option.bind_eq_some_iff.1 h
      obtain ⟨width, hwidth, h⟩ := Option.bind_eq_some_iff.1 h
      cases h
      exact Json.lt_of_orDefault (by decide) hwidth
    · cases h

theorem Assist.faithful : Faithful Assist.toJson Assist.ofJson? Assist.InRange where
  read?_write a h := by
    show (do return ⟨← Json.orNull? Json.text? (a.command.elim .null .string),
      ← Json.list? Json.text? (.array (a.args.map .string)),
      ← (Json.nat a.timeoutSeconds).offset?,
      ← Json.orNull? Json.text? (a.systemPrompt.elim .null .string), a.stripCodeFences⟩) = some a
    rw [Json.orNull?_elim, Json.texts?_write, offset?_nat h, Json.orNull?_elim]
    rfl
  written_write a h := by
    show Json.object [
      Json.member "command" (a.command.elim Json.null .string).written,
      Json.member "args" (Json.array (a.args.map .string)).written,
      Json.member "timeout_secs" (Json.nat a.timeoutSeconds).written,
      Json.member "system_prompt" (a.systemPrompt.elim Json.null .string).written,
      Json.member "strip_code_fences" (.bool a.stripCodeFences)] = a.toJson
    rw [Json.written_elim, Json.written_texts, written_nat h, Json.written_elim]
    rfl
  fits_of_read? v a h := by
    unfold Assist.ofJson? at h
    simp only at h
    split at h
    · obtain ⟨command, -, h⟩ := Option.bind_eq_some_iff.1 h
      obtain ⟨args, -, h⟩ := Option.bind_eq_some_iff.1 h
      obtain ⟨timeout, htimeout, h⟩ := Option.bind_eq_some_iff.1 h
      obtain ⟨prompt, -, h⟩ := Option.bind_eq_some_iff.1 h
      obtain ⟨strip, -, h⟩ := Option.bind_eq_some_iff.1 h
      cases h
      exact Json.lt_of_orDefault (by decide) htimeout
    · cases h

theorem Session.faithful : Faithful Session.toJson Session.ofJson? Session.InRange where
  read?_write s h := by
    show (do return ⟨← (Json.nat s.logCapacity).offset?⟩) = some s
    rw [offset?_nat h]
    rfl
  written_write s h := by
    show Json.object [Json.member "log_capacity" (Json.nat s.logCapacity).written] = s.toJson
    rw [written_nat h]
    rfl
  fits_of_read? v s h := by
    unfold Session.ofJson? at h
    simp only at h
    split at h
    · obtain ⟨capacity, hcapacity, h⟩ := Option.bind_eq_some_iff.1 h
      cases h
      exact Json.lt_of_orDefault (by decide) hcapacity
    · cases h

theorem faithful : Faithful Settings.toJson Settings.ofJson? InRange where
  read?_write s h := by
    show (do return ⟨← Render.ofJson? s.render.toJson, ← Assist.ofJson? s.assist.toJson,
      ← Session.ofJson? s.session.toJson⟩) = some s
    rw [Render.faithful.read?_write _ h.render, Assist.faithful.read?_write _ h.assist,
      Session.faithful.read?_write _ h.session]
    rfl
  written_write s h := by
    show Json.object [
      Json.member "render" s.render.toJson.written,
      Json.member "assist" s.assist.toJson.written,
      Json.member "session" s.session.toJson.written] = s.toJson
    rw [Render.faithful.written_write _ h.render, Assist.faithful.written_write _ h.assist,
      Session.faithful.written_write _ h.session]
    rfl
  fits_of_read? v s h := by
    unfold Settings.ofJson? at h
    split at h
    · obtain ⟨render, hrender, h⟩ := Option.bind_eq_some_iff.1 h
      obtain ⟨assist, hassist, h⟩ := Option.bind_eq_some_iff.1 h
      obtain ⟨session, hsession, h⟩ := Option.bind_eq_some_iff.1 h
      cases h
      have hrender' : Render.InRange {} := by unfold Render.InRange; decide
      have hassist' : Assist.InRange {} := by unfold Assist.InRange; decide
      have hsession' : Session.InRange {} := by unfold Session.InRange; decide
      exact ⟨Json.of_orDefault hrender' Render.faithful.fits_of_read? hrender,
        Json.of_orDefault hassist' Assist.faithful.fits_of_read? hassist,
        Json.of_orDefault hsession' Session.faithful.fits_of_read? hsession⟩
    · cases h

end Settings

/-! ## Requests and replies -/

namespace Assist

theorem Role.ofJson?_name (r : Role) : ofJson? (.ofString r.name) = some r := by
  cases r <;> rfl

theorem Message.faithful : Faithful Message.toJson Message.ofJson? (fun _ => True) where
  read?_write m _ := by
    show (do return ⟨← Role.ofJson? (.ofString m.role.name), m.content⟩) = some m
    rw [Role.ofJson?_name]
    rfl
  written_write _ _ := rfl
  fits_of_read? _ _ _ := trivial

theorem Request.faithful : Faithful Request.toJson Request.ofJson? (fun _ => True) where
  read?_write r _ := by
    show (Json.list? Message.ofJson? (.array (r.messages.map Message.toJson))).map Request.mk =
      some r
    rw [Message.faithful.list.read?_write r.messages fun _ _ => trivial]
    rfl
  written_write r _ := by
    show Json.object [Json.member "messages"
      (Json.array (r.messages.map Message.toJson)).written] = r.toJson
    rw [Message.faithful.list.written_write r.messages fun _ _ => trivial]
    rfl
  fits_of_read? _ _ _ := trivial

/-- What a reply leaves out when it is written is missed without harm when it is read. -/
theorem Reply.faithful : Faithful Reply.toJson Reply.ofJson? (fun _ => True) where
  read?_write r _ := by
    obtain ⟨success, text, error⟩ := r
    cases text <;> cases error <;> rfl
  written_write r _ := by
    obtain ⟨success, text, error⟩ := r
    cases text <;> cases error <;> rfl
  fits_of_read? _ _ _ := trivial

end Assist

/-! ## Documents -/

open Json (load resave Survives Layout)

/-- The state that a document stands for, or the bound that its parts break. -/
theorem State.load_ofJson? {document : Text} {p : State.Parts}
    (h : load State.Parts.ofJson? document = some p) :
    load State.ofJson? document = some (State.ofParts p.content p.cursor p.selection) := by
  obtain ⟨v, hv, hp⟩ := Option.bind_eq_some_iff.1 h
  unfold load
  rw [hv, Option.bind_some, State.ofJson?_eq, hp]
  rfl

theorem State.load_eq_none {document : Text} (h : load State.Parts.ofJson? document = none) :
    load State.ofJson? document = none := by
  unfold load at *
  cases hv : Json.parse? document with
  | none => rfl
  | some v =>
    rw [hv, Option.bind_some] at h
    rw [Option.bind_some, State.ofJson?_eq, h]
    rfl

/-- **Every format survives, and states are checked.** States, buffers, selections, positions,
commands, lines, queues, settings, requests and replies are read back from the documents that they
are written as, and such a document does not change when it is read and written again. Numbers have
to be 64-bit, and the ids of lines have to be UUIDs: a line that was made here is written under the
UUID that it is given, which may be any.

A document of the shape of a state names a content, a cursor and a selection, and these may be any.
A state is read from it, and has these parts, if and only if they are within bounds. If not, the
first bound that they break is told. No state is read from any other document. -/
theorem all_formats_survive :
    Survives State.toJson State.accept? State.InRange ∧
    Survives Buffer.toJson Buffer.ofJson? (fun _ => True) ∧
    Survives Selection.toJson Selection.ofJson? Selection.InRange ∧
    Survives Position.toJson Position.ofJson? Position.InRange ∧
    Survives Command.toJson Command.ofJson? Command.InRange ∧
    Survives Line.toJson Line.ofJson? Line.Named ∧
    Survives Queue.toJson Queue.ofJson? Queue.Named ∧
    Survives Settings.toJson Settings.ofJson? Settings.InRange ∧
    Survives Assist.Request.toJson Assist.Request.ofJson? (fun _ => True) ∧
    Survives Assist.Reply.toJson Assist.Reply.ofJson? (fun _ => True) ∧
    (∀ (names : Nat → BitVec 128) (layout : Layout),
      (∀ l : Line, load Line.ofJson? (layout.text (l.named names).toJson) = some (l.named names)) ∧
      ∀ q : Queue,
        load Queue.ofJson? (layout.text (q.named names).toJson) = some (q.named names)) ∧
    Survives State.Parts.toJson State.Parts.ofJson? State.Parts.InRange ∧
    (∀ document p, load State.Parts.ofJson? document = some p →
      ((∃ s, load State.ofJson? document = some (.ok s)) ↔ p.WithinBounds) ∧
      (∀ s, load State.ofJson? document = some (.ok s) → s.parts = p) ∧
      ∀ e, load State.ofJson? document = some (.error e) ↔ p.Breaks e) ∧
    ∀ document, load State.Parts.ofJson? document = none → load State.ofJson? document = none := by
  refine ⟨State.faithful.survives, Buffer.faithful.survives, Selection.faithful.survives,
    Position.faithful.survives, Command.faithful.survives, Line.faithful.survives,
    Queue.faithful.survives, Settings.faithful.survives, Assist.Request.faithful.survives,
    Assist.Reply.faithful.survives, fun names layout => ⟨fun l => ?_, fun q => ?_⟩,
    State.Parts.faithful.survives, fun document p h => ?_, fun document => State.load_eq_none⟩
  · exact Line.faithful.load_text (l.named_named names) layout
  · exact Queue.faithful.load_text (q.named_named names) layout
  · rw [State.load_ofJson? h]
    simp only [Option.some.injEq]
    exact ⟨State.Parts.exists_ofParts_eq_ok_iff, fun s => State.ofParts_eq_ok_iff.1,
      fun e => State.Parts.ofParts_eq_error_iff⟩

/-- The largest offset in a reversed selection, a control character in a line that was made here,
and a document that breaks all three bounds of a state. -/
theorem control_characters_and_broken_bounds :
    let largest := 18446744073709551615
    let selection : Selection := ⟨largest, 0⟩
    let q : Queue := ⟨[⟨.made 7, ['"', Char.ofNat 0x1F], true⟩, ⟨.uuid 0xABC, [], false⟩]⟩
    let names := fun serial => BitVec.ofNat 128 (serial + 2 ^ 127)
    let document := "[\"a\\uD83D\\uDE00\", 3, [9, 4]]".toList
    let p : State.Parts := ⟨⟨['a', Char.ofNat 0x1F600]⟩, 3, ⟨9, 4⟩⟩
    selection.InRange ∧
      load Selection.ofJson? (Layout.pretty.text selection.toJson) = some selection ∧
      load Queue.ofJson? (Layout.compact.text (q.named names).toJson) = some (q.named names) ∧
      load State.Parts.ofJson? document = some p ∧ ¬ p.WithinBounds ∧
      load State.ofJson? document = some (.error (.invalidIndex 3 2)) := by
  intro largest selection q names document p
  obtain ⟨-, -, hselections, -, -, -, -, -, -, -, hnamed, -, hstates, -⟩ := all_formats_survive
  have hrange : selection.InRange := ⟨by decide, by decide⟩
  have hparts : load State.Parts.ofJson? document = some p := by decide +kernel
  obtain ⟨hok, -, herror⟩ := hstates document p hparts
  have hbounds : ¬ p.WithinBounds := fun h => absurd h.cursor_le (by decide)
  exact ⟨hrange, hselections.load_text selection hrange .pretty, (hnamed names .compact).2 q,
    hparts, hbounds, (herror _).2 (.cursor (by decide))⟩

end EditScript
