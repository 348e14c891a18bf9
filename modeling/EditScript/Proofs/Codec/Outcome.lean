import EditScript.Codec.Queue
import EditScript.Proofs.Codec.Formats
import EditScript.Proofs.Json.Keys

/-!
# Outcomes that are written

An outcome is only ever written. The parts that it does not carry are left out, so that a reader can
tell from the keys what has changed, in whatever order the members stand.

* `Outcome.at?_sorted`, `Outcome.at?_toJson`: what a written outcome has under each key, its members
  put in order.
* `CommandError.InRange`, `Outcome.InRange`: all numbers are 64-bit.
* `Outcome.written_toJson`, `TraceEntry.written_toJson`, `Sequence.written_report`: then nothing is
  lost when a report is read.
-/

namespace EditScript

open Json (written_nat)

/-! ## Keys -/

namespace Outcome

/-- The keys that an outcome may have, in the order in which they are written. -/
def keys : List (Option Text) :=
  ["success", "command", "message", "error", "content", "cursor", "selection"].map fun key =>
    some key.toList

private theorem optional_sublist {α : Type} (key : String) (write : α → Json) (a : Option α) :
    ((a.map fun x => Json.member key (write x)).toList.map Prod.fst).Sublist
      [some key.toList] := by
  cases a with
  | none => exact List.nil_sublist _
  | some x => exact List.Sublist.refl _

/-- No key stands twice. -/
theorem exists_members (o : Outcome) :
    ∃ members, o.toJson = .object members ∧ (members.map Prod.fst).Nodup := by
  refine ⟨_, rfl, List.Nodup.sublist ?_ (show keys.Nodup by decide)⟩
  simp only [List.map_append]
  have herror := optional_sublist "error" CommandError.toJson o.error
  have hcontent := optional_sublist "content" Buffer.toJson o.content
  have hcursor := optional_sublist "cursor" Json.nat o.cursor
  have hselection := optional_sublist "selection" Selection.toJson o.selection
  exact ((((List.Sublist.refl _).append herror).append hcontent).append hcursor).append hselection

theorem at?_sorted (o : Outcome) (key : String) :
    o.toJson.sorted.at? [key] = (o.toJson.at? [key]).map Json.sorted := by
  obtain ⟨members, hmembers, hnodup⟩ := o.exists_members
  rw [hmembers]
  exact Json.at?_sorted hnodup key

/-- **What a written outcome has under its keys**, and what it does not have. -/
theorem at?_toJson (o : Outcome) :
    o.toJson.sorted.at? ["success"] = some (.bool o.success) ∧
      o.toJson.sorted.at? ["error"] = (o.error.map CommandError.toJson).map Json.sorted ∧
      o.toJson.sorted.at? ["content"] = o.content.map Buffer.toJson ∧
      o.toJson.sorted.at? ["cursor"] = o.cursor.map Json.nat ∧
      o.toJson.sorted.at? ["selection"] = (o.selection.map Selection.toJson).map Json.sorted := by
  simp only [at?_sorted]
  obtain ⟨command, message, error, content, cursor, selection⟩ := o
  cases error <;> cases content <;> cases cursor <;> cases selection <;>
    exact ⟨rfl, rfl, rfl, rfl, rfl⟩

end Outcome

/-- What a written entry has under a path to its outcome. -/
theorem TraceEntry.at?_outcome (e : TraceEntry) (path : List String) :
    e.toJson.sorted.at? ("outcome" :: path) = e.outcome.toJson.sorted.at? path := by
  have hsorted : e.toJson.sorted.at? ["outcome"] =
      (e.toJson.at? ["outcome"]).map Json.sorted := by
    refine Json.at?_sorted ?_ "outcome"
    show [some "line".toList, some "text".toList, some "outcome".toList].Nodup
    decide
  rw [Json.at?_cons, hsorted]
  rfl

/-! ## Numbers -/

/-- Both numbers are 64-bit. -/
def BufferError.InRange : BufferError → Prop
  | invalidIndex index length => index < Text.offsetLimit ∧ length < Text.offsetLimit
  | invalidSelection start stop => start < Text.offsetLimit ∧ stop < Text.offsetLimit

theorem BufferError.written_toJson {e : BufferError} (h : e.InRange) :
    e.toJson.written = e.toJson := by
  cases e with
  | invalidIndex index length =>
    show Json.object [Json.member "reason" (.ofString "InvalidCharIndex"),
      Json.member "index" (Json.nat index).written, Json.member "len" (Json.nat length).written] = _
    rw [written_nat h.1, written_nat h.2]
    rfl
  | invalidSelection start stop =>
    show Json.object [Json.member "reason" (.ofString "InvalidSelection"),
      Json.member "start" (Json.nat start).written, Json.member "end" (Json.nat stop).written] = _
    rw [written_nat h.1, written_nat h.2]
    rfl

namespace CommandError

/-- All numbers are 64-bit. -/
def InRange : CommandError → Prop
  | positionOutOfRange position length => position < Text.offsetLimit ∧ length < Text.offsetLimit
  | invalidRange start stop length =>
    start < Text.offsetLimit ∧ stop < Text.offsetLimit ∧ length < Text.offsetLimit
  | buffer error => error.InRange
  | _ => True

theorem written_toJson {e : CommandError} (h : e.InRange) : e.toJson.written = e.toJson := by
  cases e with
  | positionOutOfRange position length =>
    show Json.object [Json.member "kind" (.ofString "PositionOutOfRange"),
      Json.member "detail" (.object [Json.member "position" (Json.nat position).written,
        Json.member "len" (Json.nat length).written])] = _
    rw [written_nat h.1, written_nat h.2]
    rfl
  | invalidRange start stop length =>
    show Json.object [Json.member "kind" (.ofString "InvalidRange"),
      Json.member "detail" (.object [Json.member "start" (Json.nat start).written,
        Json.member "end" (Json.nat stop).written,
        Json.member "len" (Json.nat length).written])] = _
    rw [written_nat h.1, written_nat h.2.1, written_nat h.2.2]
    rfl
  | buffer error =>
    show Json.object [Json.member "kind" (.ofString "Buffer"),
      Json.member "detail" error.toJson.written] = _
    rw [BufferError.written_toJson h]
    rfl
  | invalidFormat | unknownCommand | missingArgument | invalidArguments | nothingToDelete => rfl

end CommandError

namespace Outcome

/-- All numbers are 64-bit. -/
structure InRange (o : Outcome) : Prop where
  command : ∀ c ∈ o.command, c.InRange
  error : ∀ e ∈ o.error, e.InRange
  cursor : ∀ n ∈ o.cursor, n < Text.offsetLimit
  selection : ∀ s ∈ o.selection, s.InRange

/-- A command or `null`. -/
theorem written_command {c : Option Command} (h : ∀ x ∈ c, x.InRange) :
    (c.elim Json.null Command.toJson).written = c.elim .null Command.toJson := by
  cases c with
  | none => rfl
  | some c => exact Command.faithful.written_write c (h c rfl)

theorem written_toJson {o : Outcome} (h : o.InRange) : o.toJson.written = o.toJson := by
  have herror := Json.membersWritten_optional "error" fun e he =>
    CommandError.written_toJson (h.error e he)
  have hcontent := Json.membersWritten_optional "content" fun b (_ : b ∈ o.content) =>
    Buffer.faithful.written_write b trivial
  have hcursor := Json.membersWritten_optional "cursor" fun n hn => written_nat (h.cursor n hn)
  have hselection := Json.membersWritten_optional "selection" fun s hs =>
    Selection.faithful.written_write s (h.selection s hs)
  show Json.object (Json.membersWritten (_ ++ _ ++ _ ++ _ ++ _)) = _
  rw [Json.membersWritten_append, Json.membersWritten_append, Json.membersWritten_append,
    Json.membersWritten_append, herror, hcontent, hcursor, hselection]
  show Json.object ([Json.member "success" (.bool o.success),
    Json.member "command" (o.command.elim Json.null Command.toJson).written,
    Json.member "message" (.ofString o.message)] ++ _ ++ _ ++ _ ++ _) = _
  rw [written_command h.command]
  rfl

end Outcome

/-! ## Reports -/

theorem TraceEntry.written_toJson {e : TraceEntry} (h : e.outcome.InRange) :
    e.toJson.written = e.toJson := by
  show Json.object [Json.member "line" e.line.toJson, Json.member "text" (.string e.text),
    Json.member "outcome" e.outcome.toJson.written] = e.toJson
  rw [Outcome.written_toJson h]
  rfl

/-- **A report is read as it was written**, if all numbers in it are 64-bit. -/
theorem Sequence.written_report {r : Sequence} (hfinal : r.final.InRange)
    (htrace : ∀ e ∈ r.trace, e.outcome.InRange) : r.report.written = r.report := by
  have hitems : Json.itemsWritten (r.trace.map TraceEntry.toJson) =
      r.trace.map TraceEntry.toJson := by
    rw [Json.itemsWritten_eq_map, List.map_map]
    exact List.map_congr_left fun e he => TraceEntry.written_toJson (htrace e he)
  show Json.object [Json.member "final_state" r.final.toJson.written,
    Json.member "trace" (.array (Json.itemsWritten (r.trace.map TraceEntry.toJson)))] = r.report
  rw [State.faithful.written_write _ hfinal, hitems]
  rfl

end EditScript
