import EditScript.Proofs.Command.RoundTrip
import EditScript.Proofs.Command.Run
import EditScript.Proofs.Script
import EditScript.Proofs.Session.Run
import EditScript.Proofs.Text.Paragraphs

/-!
# Canonical lines in files and replies

Commands that are written down as their canonical lines, one below the other, are got back from a
script file as well as from a reply. The canonical line starts with a letter and ends with a letter,
a digit or a quotation mark. So there is nothing at its ends that trimming, the rule for comments,
the rule for fences or either kind of line break could take away, whatever the text to insert is.

* `Command.OneLine`: the canonical line of the command is one line and is read as the command.
* `Command.whole_render`: no line break can bite into a canonical line.
* `Script.written`: commands as a text, one canonical line for each.
* `Script.ofReply_written`, `Script.lines_written`: the lines that are got back.
* `Command.executeAll`, `Session.state_runPending_acceptReply`: commands that are executed directly,
  and commands that are queued as a reply and run.
* `Script.canonical_lines_survive`: all of this together.
-/

namespace EditScript

open Text (Bare Break Whole)

namespace Command

variable {c : Command}

/-- The command inserts neither an empty text nor a line feed, and its offsets are 64-bit. -/
structure OneLine (c : Command) : Prop where
  inRange : c.InRange
  ne_nil : c ≠ .insert []
  no_feed : ∀ text, c = .insert text → '\n' ∉ text

/-- A canonical line starts with the keyword in capital letters. -/
theorem exists_render (c : Command) : ∃ rest, c.render = c.keyword.name.toList ++ rest := by
  cases c with
  | move position =>
    refine ⟨[' '] ++ Text.decimal position, ?_⟩
    show "MOVE ".toList ++ Text.decimal position = "MOVE".toList ++ ([' '] ++ Text.decimal position)
    rw [← List.append_assoc]
    rfl
  | select start stop =>
    refine ⟨[' '] ++ (Text.decimal start ++ ' ' :: Text.decimal stop), ?_⟩
    show "SELECT ".toList ++ Text.decimal start ++ ' ' :: Text.decimal stop =
      "SELECT".toList ++ ([' '] ++ (Text.decimal start ++ ' ' :: Text.decimal stop))
    rw [List.append_assoc, ← List.append_assoc _ [' ']]
    rfl
  | insert text =>
    refine ⟨[' ', '"'] ++ (text ++ ['"']), ?_⟩
    show "INSERT \"".toList ++ text ++ ['"'] = "INSERT".toList ++ ([' ', '"'] ++ (text ++ ['"']))
    rw [List.append_assoc, ← List.append_assoc _ [' ', '"']]
    rfl
  | delete => exact ⟨[], rfl⟩

theorem head?_render (c : Command) : c.render.head? = c.keyword.name.toList.head? := by
  obtain ⟨rest, h⟩ := c.exists_render
  rw [h]
  cases c.keyword <;> rfl

theorem render_ne_nil (c : Command) : c.render ≠ [] := by
  obtain ⟨rest, h⟩ := c.exists_render
  rw [h]
  refine List.append_ne_nil_of_left_ne_nil ?_ rest
  cases c.keyword <;> decide

private theorem feed_not_mem_decimal (n : Nat) : '\n' ∉ Text.decimal n := fun h =>
  absurd ((Text.numeral_decimal n).solid.not_blank '\n' h) (by decide)

/-- Only inserted text could break the line. -/
theorem feed_not_mem_render (h : ∀ text, c = .insert text → '\n' ∉ text) : '\n' ∉ c.render := by
  cases c with
  | move position =>
    show '\n' ∉ "MOVE ".toList ++ Text.decimal position
    rw [List.mem_append, not_or]
    exact ⟨by decide, feed_not_mem_decimal position⟩
  | select start stop =>
    show '\n' ∉ "SELECT ".toList ++ Text.decimal start ++ ' ' :: Text.decimal stop
    rw [List.mem_append, List.mem_append, List.mem_cons, not_or, not_or, not_or]
    exact ⟨⟨by decide, feed_not_mem_decimal start⟩, by decide, feed_not_mem_decimal stop⟩
  | insert text =>
    show '\n' ∉ "INSERT \"".toList ++ text ++ ['"']
    rw [List.mem_append, List.mem_append, not_or, not_or]
    exact ⟨⟨by decide, h text rfl⟩, by decide⟩
  | delete => decide

/-- **A canonical line stands before any line break** without losing a character to it. -/
theorem whole_render (h : c.OneLine) : Whole c.render where
  ne_nil := c.render_ne_nil
  no_feed := feed_not_mem_render h.no_feed
  last hlast := absurd ((bare_render h.inRange).last '\r' hlast) (by decide)

theorem isFence_render (c : Command) : Script.isFence c.render = false := by
  refine Bool.eq_false_iff.2 fun h => ?_
  obtain ⟨rest, hrest⟩ := List.isPrefixOf_iff_prefix.1 h
  have hhead := c.head?_render
  rw [← hrest] at hhead
  have hne : some (Char.ofNat 0x60) ≠ c.keyword.name.toList.head? := by
    cases c.keyword <;> decide
  exact hne hhead

theorem isCommandLine_render (h : c.InRange) : Script.isCommandLine c.render = true := by
  have hne := c.render_ne_nil
  have hhead : c.render.head? ≠ some '#' := by
    rw [head?_render]
    cases c.keyword <;> decide
  rw [Script.isCommandLine_eq, Text.trim_of_bare (bare_render h)]
  simp [hne, hhead]

/-- The outcome of a canonical line is that of its command. -/
theorem attempt_render (h : c.OneLine) (s : State) : attempt c.render s = c.execute s := by
  unfold attempt
  rw [parse_render h.inRange h.ne_nil]

end Command

namespace Script

variable {cmds : List Command} {brk final : Text}

/-- Commands as a text: their canonical lines with line breaks between them, and `final` at the
end. -/
def written (brk final : Text) (cmds : List Command) : Text :=
  brk.intercalate (cmds.map Command.render) ++ final

theorem paragraphs_written (hb : Break brk) (hf : final = [] ∨ Break final)
    (h : ∀ c ∈ cmds, c.OneLine) (hne : cmds ≠ []) :
    Text.paragraphs (written brk final cmds) = cmds.map Command.render := by
  refine Text.paragraphs_intercalate hb hf (fun line hl => ?_) (mt List.map_eq_nil_iff.1 hne)
  obtain ⟨c, hc, rfl⟩ := List.mem_map.1 hl
  exact Command.whole_render (h c hc)

/-- **A reply gives the canonical lines back**, whether fences are stripped or not. -/
theorem ofReply_written (hb : Break brk) (hf : final = [] ∨ Break final)
    (h : ∀ c ∈ cmds, c.OneLine) (strip : Bool) :
    ofReply strip (written brk final cmds) = cmds.map Command.render := by
  rcases eq_or_ne cmds [] with rfl | hne
  · -- What is left of the text is the last line break, if there is one.
    rcases hf with rfl | ⟨_⟩ | ⟨_⟩ <;> rfl
  · have htrim : ∀ line ∈ cmds.map Command.render, Text.trim line = line := fun line hl => by
      obtain ⟨c, hc, rfl⟩ := List.mem_map.1 hl
      exact Text.trim_of_bare (Command.bare_render (h c hc).inRange)
    unfold ofReply
    rw [paragraphs_written hb hf h hne, List.map_congr_left htrim, List.map_id']
    refine List.filter_eq_self.2 fun line hl => ?_
    obtain ⟨c, -, rfl⟩ := List.mem_map.1 hl
    simp [c.render_ne_nil, c.isFence_render]

/-- **A script file gives the canonical lines back.** -/
theorem lines_written (hb : Break brk) (hf : final = [] ∨ Break final)
    (h : ∀ c ∈ cmds, c.OneLine) : lines (written brk final cmds) = cmds.map Command.render := by
  rcases eq_or_ne cmds [] with rfl | hne
  · rcases hf with rfl | ⟨_⟩ | ⟨_⟩ <;> rfl
  · unfold lines
    rw [paragraphs_written hb hf h hne]
    refine List.filter_eq_self.2 fun line hl => ?_
    obtain ⟨c, hc, rfl⟩ := List.mem_map.1 hl
    exact Command.isCommandLine_render (h c hc).inRange

theorem map_parse_render (h : ∀ c ∈ cmds, c.OneLine) :
    (cmds.map Command.render).map Command.parse = cmds.map .ok := by
  rw [List.map_map]
  exact List.map_congr_left fun c hc => Command.parse_render (h c hc).inRange (h c hc).ne_nil

end Script

/-! ## Running a reply -/

/-- Running canonical lines executes their commands. -/
theorem Sequence.final_run_freshLines {cmds : List Command} (h : ∀ c ∈ cmds, c.OneLine)
    (serial : Nat) (s : State) :
    (run (Queue.freshLines serial (cmds.map Command.render)) s).final =
      Command.executeAll cmds s := by
  induction cmds generalizing serial s with
  | nil => rfl
  | cons c cmds ih =>
    have hrest := ih fun c hc => h c (List.mem_cons_of_mem _ hc)
    have hattempt := Command.attempt_render (h c List.mem_cons_self) s
    rw [List.map_cons, Queue.freshLines_cons, run_cons_pending rfl, hrest, Line.fresh, hattempt]
    rfl

/-- A reply of canonical lines that is queued and run leads to the state that the commands lead
to. -/
theorem Session.state_runPending_acceptReply {cmds : List Command} (h : ∀ c ∈ cmds, c.OneLine)
    {s : Session} (hs : s.queue.pending = []) :
    (s.acceptReply (cmds.map Command.render)).session.runPending.session.state =
      Command.executeAll cmds s.state := by
  have hpending : (s.acceptReply (cmds.map Command.render)).session.queue.pending =
      Queue.freshLines s.made (cmds.map Command.render) := by
    unfold acceptReply
    rw [Queue.pending_extend, hs, List.nil_append]
  rw [runPending_session, hpending]
  exact Sequence.final_run_freshLines h s.made s.state

namespace Script

/-- **Canonical lines survive.** Commands are written down as canonical lines with either kind of
line break between them, and with or without one at the end. No command inserts an empty text or a
line feed. Then a reply and a script file give exactly these lines back, each is read as its
command, and a session without pending lines that accepts the reply and runs it comes to the state
that the commands lead to. -/
theorem canonical_lines_survive {cmds : List Command} (h : ∀ c ∈ cmds, c.OneLine)
    {brk final : Text} (hb : Break brk) (hf : final = [] ∨ Break final) :
    (∀ strip, ofReply strip (written brk final cmds) = cmds.map Command.render) ∧
      lines (written brk final cmds) = cmds.map Command.render ∧
      (cmds.map Command.render).map Command.parse = cmds.map .ok ∧
      ∀ (strip : Bool) (s : Session), s.queue.pending = [] →
        (s.acceptReply (ofReply strip (written brk final cmds))).session.runPending.session.state =
          Command.executeAll cmds s.state := by
  have hreply := ofReply_written hb hf h
  refine ⟨hreply, lines_written hb hf h, map_parse_render h, fun strip s hs => ?_⟩
  rw [hreply strip]
  exact Session.state_runPending_acceptReply h hs

/-- Texts of a carriage return, of a fence, and of a comment between blanks; a command that fails;
and carriage returns in all line breaks. -/
theorem returns_fences_and_comments_survive :
    let fenceText : Text := fence ++ ['"']
    let comment : Text := [' ', '#', ' ']
    let cmds : List Command := [.insert ['\r'], .insert fenceText, .insert comment,
      .select 0 18446744073709551615, .select 0 1, .delete]
    let text := written ['\r', '\n'] ['\r', '\n'] cmds
    let s := Session.start ⟨['x']⟩ {}
    let accepted := s.acceptReply (ofReply true text)
    (∀ c ∈ cmds, c.OneLine) ∧ Break ['\r', '\n'] ∧ s.queue.pending = [] ∧
      lines text = cmds.map Command.render ∧
      (ofReply true text).map Command.parse = cmds.map .ok ∧
      accepted.session.runPending.session.state.content = ⟨fenceText ++ comment ++ ['x']⟩ := by
  intro fenceText comment cmds text s accepted
  have hinsert : ∀ inserted : Text, inserted ≠ [] → '\n' ∉ inserted →
      (Command.insert inserted).OneLine := fun inserted hne hfeed =>
    ⟨trivial, fun he => hne (Command.insert.inj he), fun _ he => Command.insert.inj he ▸ hfeed⟩
  have hselect : ∀ stop < Text.offsetLimit, (Command.select 0 stop).OneLine := fun stop h =>
    ⟨⟨by decide, h⟩, Command.noConfusion, fun _ => Command.noConfusion⟩
  have hdelete : Command.delete.OneLine :=
    ⟨trivial, Command.noConfusion, fun _ => Command.noConfusion⟩
  have h : ∀ c ∈ cmds, c.OneLine := by
    simp only [cmds, List.forall_mem_cons]
    exact ⟨hinsert _ (by decide) (by decide), hinsert _ (by decide) (by decide),
      hinsert _ (by decide) (by decide), hselect _ (by decide), hselect _ (by decide), hdelete,
      fun _ hc => nomatch hc⟩
  obtain ⟨hreply, hlines, hparse, hrun⟩ := canonical_lines_survive h .returnFeed (.inr .returnFeed)
  have hs : s.queue.pending = [] := rfl
  refine ⟨h, .returnFeed, hs, hlines, ?_, ?_⟩
  · rw [hreply true]
    exact hparse
  · rw [hrun true s hs]
    show (Command.executeAll [.insert ['\r'], .insert (fence ++ ['"']), .insert [' ', '#', ' '],
      .select 0 18446744073709551615, .select 0 1, .delete] (.ofBuffer ⟨['x']⟩)).content =
        ⟨fence ++ ['"'] ++ [' ', '#', ' '] ++ ['x']⟩
    decide +kernel

end Script
end EditScript
