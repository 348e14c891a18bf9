import EditScript.Proofs.Command.Grammar
import EditScript.Sequence

/-!
# Rendering and reading

The canonical line of a command is read as that command. The quotation marks around inserted text
keep its blanks, its line breaks and its own quotation marks; only an empty text is lost, since
two quotation marks with nothing between them are refused.

* `Command.InRange`: the offsets of a command are 64-bit.
* `Command.written_render`: the grammar derives the canonical line.
* `Command.parse_render`, `Command.parse_render_empty`: reading a canonical line.
* `Command.Written.inRange`, `Command.Written.ne_insert_nil`: what the grammar derives can be
  rendered.
* `Command.rendering_and_reading_are_inverse`: both together, and what follows for the outcome of
  a line.
-/

namespace EditScript
namespace Command

open Text (Gap Solid Bare)

variable {c : Command}

/-- The offsets of the command are 64-bit. -/
def InRange : Command → Prop
  | move position => position < Text.offsetLimit
  | select start stop => start < Text.offsetLimit ∧ stop < Text.offsetLimit
  | insert _ | delete => True

private theorem gap_space : Gap [' '] := ⟨by decide, fun _ hc => List.mem_singleton.1 hc ▸ rfl⟩

theorem offsetWord_decimal {n : Nat} (h : n < Text.offsetLimit) :
    OffsetWord (Text.decimal n) n := ⟨Text.numeral_decimal n, h⟩

theorem bare_quoted (t : Text) : Bare ('"' :: t ++ ['"']) where
  head c hc := Option.some.inj hc ▸ by decide
  last c hc := by
    rw [List.getLast?_concat] at hc
    exact Option.some.inj hc ▸ by decide

/-- **The canonical line is in the grammar**, unless it would insert an empty text. -/
theorem written_render (h : c.InRange) (hne : c ≠ .insert []) : Written c.render c := by
  cases c with
  | move position => exact .move (Keyword.spelled_name .move) gap_space (offsetWord_decimal h)
  | select start stop =>
    have hw := Written.select (Keyword.spelled_name .select) gap_space (offsetWord_decimal h.1)
      gap_space (offsetWord_decimal h.2)
    rwa [List.append_assoc (Text.decimal start)] at hw
  | insert text =>
    have htext : text ≠ [] := fun ht => hne (congrArg insert ht)
    have hw := Written.insert (Keyword.spelled_name .insert) gap_space (bare_quoted text)
      (.quoted text) htext
    -- The blank and the first quotation mark belong to one literal in the canonical line.
    exact hw
  | delete => exact .delete (Keyword.spelled_name .delete)

/-- The grammar has no room for blanks at the ends of a command with arguments. -/
theorem bare_render (h : c.InRange) : Bare c.render := by
  cases c with
  | move position =>
    have hp := (offsetWord_decimal h).solid
    exact (Keyword.spelled_name .move).solid.bare_append [' '] hp.bare hp.ne_nil
  | select start stop =>
    have hs := (offsetWord_decimal h.1).solid
    have he := (offsetWord_decimal h.2).solid
    have hargs := hs.bare_append [' '] he.bare he.ne_nil
    have hb := (Keyword.spelled_name .select).solid.bare_append [' '] hargs (by simp)
    rwa [List.append_assoc (Text.decimal start)] at hb
  | insert text =>
    exact (Keyword.spelled_name .insert).solid.bare_append [' '] (bare_quoted text) (by simp)
  | delete => exact (Keyword.spelled_name .delete).solid.bare

/-- **A canonical line is read as its command.** -/
theorem parse_render (h : c.InRange) (hne : c ≠ .insert []) : parse c.render = .ok c := by
  rw [parse_eq_ok_iff, Text.trim_of_bare (bare_render h)]
  exact written_render h hne

/-- Two quotation marks with nothing between them are no text to insert. -/
theorem parse_render_empty :
    parse (insert []).render = .error (.missingArgument "INSERT" "text to insert") := by
  rfl

theorem Written.inRange {body : Text} (h : Written body c) : c.InRange := by
  cases h with
  | move _ _ hp => exact hp.2
  | select _ _ hs _ he => exact ⟨hs.2, he.2⟩
  | insert | delete | deleteAnything => trivial

theorem Written.ne_insert_nil {body : Text} (h : Written body c) : c ≠ .insert [] := by
  cases h with
  | insert _ _ _ _ hne => exact fun h => hne (Command.insert.inj h)
  | move | select | delete | deleteAnything => exact Command.noConfusion

/-- The canonical line of a command that was read is read in the same way. -/
theorem parse_render_of_parse {line : Text} (h : parse line = .ok c) :
    parse c.render = .ok c := by
  have hw := parse_eq_ok_iff.1 h
  exact parse_render hw.inRange hw.ne_insert_nil

/-- **Rendering and reading are inverse.** Every command is read back from its canonical line,
except that an empty text is missing there. No line inserts an empty text, so the canonical line
may stand for any line that is a command: it is read in the same way and has the same outcome in
every state. -/
theorem rendering_and_reading_are_inverse :
    (∀ c : Command, c.InRange → c ≠ .insert [] → parse c.render = .ok c) ∧
      parse (insert []).render = .error (.missingArgument "INSERT" "text to insert") ∧
      (∀ line, parse line ≠ .ok (.insert [])) ∧
      ∀ line c, parse line = .ok c → parse c.render = .ok c ∧
        ∀ s : State, attempt c.render s = attempt line s := by
  refine ⟨fun c => parse_render, parse_render_empty, fun line h => ?_, fun line c h => ?_⟩
  · exact (parse_eq_ok_iff.1 h).ne_insert_nil rfl
  · have hrender := parse_render_of_parse h
    refine ⟨hrender, fun s => ?_⟩
    unfold attempt
    rw [hrender, h]

/-- A text that starts with a quotation mark and ends with blanks, the largest offset, and a line
in another spelling. -/
theorem quotes_blanks_and_spellings_survive :
    let text : Text := ['"', '\n', ' ']
    let largest := 18446744073709551615
    let line := " sElEcT\t7 \u00a0 005\n".toList
    (insert text).InRange ∧ insert text ≠ .insert [] ∧
      parse (insert text).render = .ok (.insert text) ∧
      (move largest).InRange ∧ parse (move largest).render = .ok (.move largest) ∧
      parse line = .ok (.select 7 5) ∧
      ∀ s : State, attempt "SELECT 7 5".toList s = attempt line s := by
  intro text largest line
  obtain ⟨hrender, -, -, hline⟩ := rendering_and_reading_are_inverse
  have hlargest : (move largest).InRange := by unfold InRange; decide
  have hparse : parse line = .ok (.select 7 5) := rfl
  have houtcome : ∀ s, attempt (select 7 5).render s = attempt line s := (hline line _ hparse).2
  exact ⟨trivial, by decide, hrender (.insert text) trivial (by decide), hlargest,
    hrender (.move largest) hlargest (by decide), hparse, houtcome⟩

end Command
end EditScript
