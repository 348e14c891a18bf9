import EditScript.Proofs.CommandLine.Modes
import EditScript.Proofs.Sequence.Size

/-!
# Reports that tell everything

A run that is asked for a report prints one document and nothing else. A host that sees only this
document can follow the run: each outcome has the keys of what changes, and no others.

* `CommandLine.overwrite`: how a host keeps the state up to date, by the keys that an entry has.
* `CommandLine.Consistent`: an entry tells of a success or of an error, and of no change in the
  second case.
* `CommandLine.overwrite_entry`, `CommandLine.consistent_entry`: one entry.
* `CommandLine.overwrite_run`: a whole run, by induction on its lines.
* `CommandLine.openSession_eq_ok_of_le`, `CommandLine.invoke_report`: the run that a report tells
  of.
* `CommandLine.report_self_contained`: the printed document leads from the text and the cursor to
  the final state that it states.
-/

namespace EditScript
namespace CommandLine

open State (Parts)

/-! ## What a host does with a document -/

/-- The keys for what an outcome changes, which are also those of a state. -/
def stateKeys : List String := ["content", "cursor", "selection"]

/-- The state that a host knows after an entry: what the outcome has a key for is taken from there,
and the rest is kept. -/
def overwrite (state entry : Json) : Json :=
  .object (stateKeys.filterMap fun key =>
    ((entry.at? ["outcome", key]).or (state.at? [key])).map (Json.member key))

/-- The entry is marked as a success if and only if it has no error. If it is not, nothing
changes. -/
def Consistent (entry : Json) : Prop :=
  ∃ success, entry.at? ["outcome", "success"] = some (.bool success) ∧
    (success = true ↔ entry.at? ["outcome", "error"] = none) ∧
    (success = false → ∀ key ∈ stateKeys, entry.at? ["outcome", key] = none)

/-! ## One entry -/

variable {e : TraceEntry} {s t : State}

/-- A host that knows a state overwrites it with what an outcome leads to. -/
theorem overwrite_entry (h : t.parts = e.outcome.overlay s) :
    overwrite s.toJson.sorted e.toJson.sorted = t.toJson.sorted := by
  injection h with hcontent hcursor hselection
  obtain ⟨-, -, hnew, hmoved, hselected⟩ := e.outcome.at?_toJson
  unfold overwrite stateKeys
  rw [sorted_state, sorted_state, hcontent, hcursor, hselection]
  simp only [List.filterMap_cons, e.at?_outcome, hnew, hmoved, hselected]
  cases e.outcome.content <;> cases e.outcome.cursor <;> cases e.outcome.selection <;> rfl

/-- What came of a line is told consistently. -/
theorem consistent_entry (h : e.outcome = Command.attempt e.text s) :
    Consistent e.toJson.sorted := by
  obtain ⟨hsuccess, herror, hnew, hmoved, hselected⟩ := e.outcome.at?_toJson
  refine ⟨e.outcome.success, ?_, ?_, fun hfailed => ?_⟩
  · rw [e.at?_outcome, hsuccess]
  · rw [e.at?_outcome, herror]
    simp [Outcome.success]
  · rw [h] at hfailed
    obtain ⟨hcontent, hcursor, hselection⟩ := Command.attempt_carries_nothing hfailed
    simp only [stateKeys, List.forall_mem_cons, e.at?_outcome, hnew, hmoved, hselected]
    rw [h, hcontent, hcursor, hselection]
    exact ⟨rfl, rfl, rfl, fun _ hmem => nomatch hmem⟩

/-! ## A whole run -/

/-- The entries of a run as they stand in a report. -/
def reportedEntries (r : Sequence) : List Json := r.trace.map fun e => e.toJson.sorted

theorem reportedEntries_consistent (ls : List Line) (s : State) :
    ∀ entry ∈ reportedEntries (Sequence.run ls s), Consistent entry := by
  intro entry hentry
  obtain ⟨e, he, rfl⟩ := List.mem_map.1 hentry
  obtain ⟨before, after, htrace⟩ := List.append_of_mem he
  exact consistent_entry (Sequence.outcome_of_trace_eq htrace)

/-- **A host goes through the states of a run**, and ends in its final state. -/
theorem overwrite_run (ls : List Line) (s : State) :
    let r := Sequence.run ls s
    (reportedEntries r).scanl overwrite s.toJson.sorted =
        (Sequence.statesOfTrace r.trace s).map (fun t => t.toJson.sorted) ∧
      (reportedEntries r).foldl overwrite s.toJson.sorted = r.final.toJson.sorted := by
  induction ls generalizing s with
  | nil => exact ⟨rfl, rfl⟩
  | cons l ls ih =>
    intro r
    cases hex : l.executed with
    | true =>
      have hr : r = Sequence.run ls s := Sequence.run_cons_executed hex ls s
      rw [hr]
      exact ih s
    | false =>
      let e : TraceEntry := ⟨l.id, l.text, Command.attempt l.text s⟩
      let later := Sequence.run ls (e.outcome.applyTo s)
      have hr : r = ⟨e :: later.trace, later.final⟩ := Sequence.run_cons_pending hex ls s
      have hstep : overwrite s.toJson.sorted e.toJson.sorted =
          (e.outcome.applyTo s).toJson.sorted :=
        overwrite_entry (Command.parts_applyTo_attempt l.text s)
      obtain ⟨hstates, hfinal⟩ := ih (e.outcome.applyTo s)
      have hentries : reportedEntries r = e.toJson.sorted :: reportedEntries later := by
        rw [hr]
        rfl
      rw [hentries, List.scanl_cons, List.foldl_cons, hstep, hstates, hfinal, hr]
      exact ⟨by rw [Sequence.statesOfTrace, Sequence.statesOfTrace, List.scanl_cons]; rfl, rfl⟩

/-- What stands in a report. -/
theorem at?_report (r : Sequence) :
    r.report.sorted.at? ["trace"] = some (.array (reportedEntries r)) ∧
      r.report.sorted.at? ["final_state"] = some r.final.toJson.sorted := by
  have hentries : (Json.array (r.trace.map TraceEntry.toJson)).sorted =
      .array (reportedEntries r) := by
    show Json.array (Json.itemsSorted (r.trace.map TraceEntry.toJson)) = _
    rw [Json.itemsSorted_eq_map, List.map_map]
    rfl
  rw [sorted_report, hentries]
  exact ⟨rfl, rfl⟩

/-- A report is read as it was printed if the content has room for all lines that were run. -/
theorem parse?_report {ls : List Line} {s : State}
    (h : s.length + (ls.map fun l => l.text.length).sum < Text.offsetLimit) :
    Json.parse? ((Sequence.run ls s).report.sorted.pretty ++ ['\n']) =
      some (Sequence.run ls s).report.sorted := by
  obtain ⟨hfinal, htrace⟩ := Sequence.inRange_run h
  rw [Json.parse?_pretty, Json.written_sorted, Sequence.written_report hfinal htrace]

/-! ## The whole program -/

variable {env : Environment} {loaded : Settings} {settings : Option Text} {cursor : Nat}
  {file script text lines : Text}

/-- A text is opened at any cursor within it. -/
theorem openSession_eq_ok_of_le (loaded : Settings) (htext : readText (env.read file) = .ok text)
    (hcursor : cursor ≤ text.length) :
    ∃ s, openSession env file cursor loaded = .ok s ∧
      s.state.parts = ⟨⟨text⟩, cursor, .caret cursor⟩ := by
  have hw : Parts.WithinBounds ⟨⟨text⟩, cursor, .caret cursor⟩ := ⟨hcursor, Nat.le_refl _, hcursor⟩
  obtain ⟨state, hstate, hparts⟩ := hw.exists_state
  have hopened : (Session.start ⟨text⟩ loaded).state.withCursor cursor = .ok state := hstate
  let s : Session := { Session.start ⟨text⟩ loaded with state := state }
  have hread : readFile env "" file = .ok text := by
    unfold readFile
    rw [htext]
  have hstart : startSession text cursor loaded = .ok s := by
    unfold startSession Session.setCursor
    rw [Session.changeState_of_ok hopened]
  refine ⟨s, ?_, hparts⟩
  unfold openSession
  rw [hread]
  exact hstart

/-- A report tells of a run of the lines of the script on the text. -/
theorem invoke_report (hload : loadSettings env settings = .ok loaded)
    (htext : readText (env.read file) = .ok text) (hcursor : cursor ≤ text.length)
    (hlines : readText (env.read script) = .ok lines) (trace : Bool) :
    ∃ ls s, s.parts = ⟨⟨text⟩, cursor, .caret cursor⟩ ∧ ls.map Line.text = Script.lines lines ∧
      invoke env ⟨settings, .run file script cursor trace true⟩ =
        .ok ⟨(Sequence.run ls s).report.sorted.pretty ++ ['\n'], []⟩ := by
  obtain ⟨s, hopen, hparts⟩ := openSession_eq_ok_of_le loaded htext hcursor
  obtain ⟨-, -, hreport⟩ := runLines_eq (openSession_eq_ok hopen).1 (Script.lines lines)
  refine ⟨Queue.freshLines s.made (Script.lines lines), s.state, hparts,
    Queue.freshLines_texts _ _, ?_⟩
  rw [invoke_eq, hload]
  show perform env loaded (.run file script cursor trace true) = _
  rw [perform_run, hopen, readScript_eq_ok hlines]
  exact congrArg Except.ok hreport

/-- **A report is self-contained.** Let a text, a cursor within it and a script be given. The
program prints one document, which is read as it was printed if 64-bit offsets reach through the
text and the script. Each entry of its trace is consistent. To start from the text with a caret at
the cursor and to overwrite, entry by entry, the parts that the entry has keys for leads through
states within bounds only, and to the final state of the document. -/
theorem report_self_contained (env : Environment) {settings : Option Text} {loaded : Settings}
    {file script text lines : Text} {cursor : Nat}
    (hsettings : ∀ path ∈ settings, IsPath path) (hfile : IsPath file) (hscript : IsPath script)
    (hlimit : cursor < Text.offsetLimit) (hload : loadSettings env settings = .ok loaded)
    (htext : readText (env.read file) = .ok text) (hcursor : cursor ≤ text.length)
    (hlines : readText (env.read script) = .ok lines) (trace : Bool) :
    let exit := main env
      (scriptArguments .run settings file script cursor ++ outputArguments trace true)
    let opened : Parts := ⟨⟨text⟩, cursor, .caret cursor⟩
    exit.code = 0 ∧ ∃ document entries final,
      exit.output = document.pretty ++ ['\n'] ∧
      (text.length + lines.length < Text.offsetLimit →
        Json.parse? exit.output = some document) ∧
      document.at? ["trace"] = some (.array entries) ∧
      document.at? ["final_state"] = some final ∧
      (∀ entry ∈ entries, Consistent entry) ∧
      (∀ state ∈ entries.scanl overwrite opened.toJson.sorted,
        ∃ p : Parts, p.WithinBounds ∧ state = p.toJson.sorted) ∧
      entries.foldl overwrite opened.toJson.sorted = final := by
  intro exit opened
  obtain ⟨ls, s, hparts, htexts, hinvoke⟩ := invoke_report hload htext hcursor hlines trace
  let r := Sequence.run ls s
  have hexit : exit = ⟨0, r.report.sorted.pretty ++ ['\n'], []⟩ := by
    have hmain : exit = ended (invoke env ⟨settings, .run file script cursor trace true⟩) :=
      main_eq_ended (readArguments_run hsettings hfile hscript hlimit trace true)
    rw [hmain, hinvoke]
    rfl
  have hopened : s.toJson.sorted = opened.toJson.sorted :=
    congrArg (fun p => p.toJson.sorted) hparts
  obtain ⟨htrace, hfinal⟩ := at?_report r
  obtain ⟨hstates, hlast⟩ := overwrite_run ls s
  rw [hopened] at hstates hlast
  refine ⟨congrArg Exit.code hexit, r.report.sorted, reportedEntries r, r.final.toJson.sorted,
    congrArg Exit.output hexit, fun hsize => ?_, htrace, hfinal, reportedEntries_consistent ls s,
    fun state hstate => ?_, hlast⟩
  · have hsum : (ls.map fun l => l.text.length).sum ≤ lines.length := by
      have hle := Script.sum_length_lines_le lines
      rw [← htexts, List.map_map] at hle
      exact hle
    have hlength : s.length = text.length := congrArg (fun p => p.content.length) hparts
    rw [hexit]
    exact parse?_report (by omega)
  · rw [hstates] at hstate
    obtain ⟨t, -, rfl⟩ := List.mem_map.1 hstate
    exact ⟨t.parts, t.withinBounds_parts, rfl⟩

/-- A script in which one line is out of range and another one no command. The lines after them are
run, and a host follows. -/
theorem report_with_failures_replayed :
    let script := "INSERT X\nMOVE 99\ntidy up\nSELECT 0 2\nDELETE".toList
    let env : Environment := .ofFiles none (Folder.read (.ofFiles [
      ("text".toList, Text.toBytes "ab".toList), ("script".toList, Text.toBytes script)]))
    let exit := main env
      (scriptArguments .run none "text".toList "script".toList 1 ++ outputArguments false true)
    let opened : Parts := ⟨⟨"ab".toList⟩, 1, .caret 1⟩
    reportedContent? exit.output = some "b".toList ∧ ∃ document entries final,
      Json.parse? exit.output = some document ∧
      document.at? ["trace"] = some (.array entries) ∧
      document.at? ["final_state"] = some final ∧
      (∀ entry ∈ entries, Consistent entry) ∧
      entries.foldl overwrite opened.toJson.sorted = final := by
  intro script env exit opened
  have hfile : IsPath "text".toList := ⟨by decide, fun h => absurd h (by decide)⟩
  have hscript : IsPath "script".toList := ⟨by decide, fun h => absurd h (by decide)⟩
  have hlimit : 1 < Text.offsetLimit := by decide
  have hsettings : ∀ path ∈ (none : Option Text), IsPath path := nofun
  have hcontent : reportedContent? exit.output = some "b".toList := by
    have hexit : exit = ended (invoke env ⟨none, .run _ _ 1 false true⟩) :=
      main_eq_ended (readArguments_run hsettings hfile hscript hlimit false true)
    have hprinted : (invoke env ⟨none, .run "text".toList "script".toList 1 false false⟩).map
        Printed.output = .ok "b".toList := rfl
    cases invoke_script env none "text".toList "script".toList 1 with
    | failed f _ hrun =>
      rw [hrun] at hprinted
      cases hprinted
    | printed r _ _ hplain hjson =>
      rw [hplain] at hprinted
      have hchars : r.final.content.chars = "b".toList := Except.ok.inj hprinted
      rw [hexit, hjson]
      exact (reportedContent?_report r).trans (congrArg some hchars)
  obtain ⟨-, document, entries, final, -, hparse, htrace, hfinal, hconsistent, -, hlast⟩ :=
    report_self_contained env hsettings hfile hscript hlimit rfl rfl (by decide) rfl false
  exact ⟨hcontent, document, entries, final, hparse (by decide), htrace, hfinal, hconsistent, hlast⟩

end CommandLine
end EditScript
