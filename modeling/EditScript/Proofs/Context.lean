import EditScript.Assist.Prompt
import EditScript.Proofs.Context.Account
import EditScript.Proofs.State.Alike
import EditScript.Proofs.Text.Numeral

/-!
# What the assistant can tell from the context

The content, the selected text and the mark at the cursor can be any texts, and may look like any
part of the context. Yet the context can be read back, from the left and without a look at what
follows it: numbers end where their digits end, lines at their line feeds, and how many lines there
are is said at the start.

* `Text.prefix_of_run`: where two texts start with characters of one kind, and one text is a prefix
  of the other, they start with the same ones. `Text.prefix_of_decimal` and `Text.prefix_of_line`
  are the two kinds that occur.
* `Context.prefix_of_cursorLine`, `Context.prefix_of_selectionLine`, `Context.prefix_of_listing`,
  `State.prefix_of_markedLine`: the parts of a context, each with whatever follows it.
* `State.alike_of_prefix_context`: states with one context a prefix of the other are alike.
* `State.context_loses_nothing`: what this means for contexts and for requests.
-/

namespace EditScript

namespace Text

variable {a b r r' : Text}

/-- Two texts that start with characters of one kind, and then go on with another: if one is a
prefix of the other, then they start with the same characters. -/
theorem prefix_of_run {p : Char → Bool} {x y : Char} (ha : ∀ c ∈ a, p c = true)
    (hb : ∀ c ∈ b, p c = true) (hr : r.head? = some x) (hx : p x = false)
    (hr' : r'.head? = some y) (hy : p y = false) (h : a ++ r <+: b ++ r') :
    a = b ∧ r <+: r' := by
  obtain ⟨more, hmore⟩ := h
  obtain ⟨u, rfl⟩ := List.head?_eq_some_iff.1 hr
  obtain ⟨v, rfl⟩ := List.head?_eq_some_iff.1 hr'
  have hab : a = b := by
    have htake := congrArg (List.takeWhile p) hmore
    rw [List.append_assoc, List.takeWhile_append_of_pos ha, List.takeWhile_append_of_pos hb,
      List.cons_append, List.takeWhile_cons_of_neg (by simp [hx]),
      List.takeWhile_cons_of_neg (by simp [hy]), List.append_nil, List.append_nil] at htake
    exact htake
  subst hab
  rw [List.append_assoc] at hmore
  exact ⟨rfl, more, List.append_cancel_left hmore⟩

/-- A number ends where its digits end. -/
theorem prefix_of_decimal {m n : Nat} {x y : Char} (hr : r.head? = some x)
    (hx : x.isDigit = false) (hr' : r'.head? = some y) (hy : y.isDigit = false)
    (h : decimal m ++ r <+: decimal n ++ r') : m = n ∧ r <+: r' := by
  obtain ⟨hdigits, hrest⟩ := prefix_of_run (numeral_decimal m).isDigit (numeral_decimal n).isDigit
    hr hx hr' hy h
  exact ⟨decimal_injective hdigits, hrest⟩

/-- A line ends at its line feed. -/
theorem prefix_of_line (ha : '\n' ∉ a) (hb : '\n' ∉ b)
    (h : a ++ ('\n' :: r) <+: b ++ ('\n' :: r')) : a = b ∧ r <+: r' := by
  have hkind : ∀ t : Text, '\n' ∉ t → ∀ c ∈ t, (c != '\n') = true := fun t ht c hc =>
    bne_iff_ne.2 fun he => ht (he ▸ hc)
  obtain ⟨hline, hrest⟩ := prefix_of_run (p := (· != '\n')) (hkind a ha) (hkind b hb)
    rfl rfl rfl rfl h
  exact ⟨hline, (List.cons_prefix_cons.1 hrest).2⟩

/-- Texts of one length that are followed by something. -/
theorem prefix_of_length (hl : a.length = b.length) (h : a ++ r <+: b ++ r') :
    a = b ∧ r <+: r' := by
  obtain ⟨more, hmore⟩ := h
  rw [List.append_assoc] at hmore
  obtain ⟨hab, hrest⟩ := List.append_inj hmore hl
  exact ⟨hab, more, hrest⟩

/-- Hexadecimal digits break no line. -/
theorem break_not_mem_hexadecimal (n : Nat) : '\n' ∉ hexadecimal n := by
  have hdigit : ∀ k < 16, Nat.digitChar k ≠ '\n' := by decide
  unfold hexadecimal
  induction n using Nat.strongRecOn with
  | ind n ih =>
    rcases Nat.lt_or_ge n 16 with hlt | hge
    · rw [Nat.toDigits_of_lt_base hlt, List.mem_singleton]
      exact (hdigit n hlt).symm
    · have hlast := hdigit (n % 16) (by omega)
      rw [Nat.toDigits_of_base_le (by decide) hge, List.mem_append, List.mem_singleton, not_or]
      exact ⟨ih (n / 16) (by omega), hlast.symm⟩

/-- A quoted text stands on one line. -/
theorem break_not_mem_quoted (t : Text) : '\n' ∉ quoted t := by
  have hescape : ∀ c, '\n' ∉ escape c := by
    intro c
    by_cases hc : c = '\n'
    · rw [hc]
      decide
    · unfold escape
      repeat' split
      all_goals simp [break_not_mem_hexadecimal, Ne.symm hc]
  simp [quoted, hescape]

end Text

namespace Context

variable {r r' : Text}

theorem prefix_of_cursorLine {p q : Position} {m n : Nat}
    (h : cursorLine p m ++ r <+: cursorLine q n ++ r') : (p = q ∧ m = n) ∧ r <+: r' := by
  unfold cursorLine at h
  simp only [List.append_assoc] at h
  have h₁ := (List.prefix_append_right_inj _).1 h
  obtain ⟨hline, h₂⟩ := Text.prefix_of_decimal rfl rfl rfl rfl h₁
  have h₃ := (List.prefix_append_right_inj _).1 h₂
  obtain ⟨hcolumn, h₄⟩ := Text.prefix_of_decimal rfl rfl rfl rfl h₃
  have h₅ := (List.prefix_append_right_inj _).1 h₄
  obtain ⟨hoffset, h₆⟩ := Text.prefix_of_decimal rfl rfl rfl rfl h₅
  have hposition : p = q := by
    cases p
    cases q
    simp only [Position.mk.injEq]
    exact ⟨Nat.succ.inj hline, hcolumn⟩
  exact ⟨⟨hposition, hoffset⟩, (List.prefix_append_right_inj _).1 h₆⟩

theorem prefix_of_selectionLine {x y : Selection} {t u : Text}
    (h : selectionLine x t ++ r <+: selectionLine y u ++ r') : x = y ∧ r <+: r' := by
  unfold selectionLine at h
  simp only [List.append_assoc, List.cons_append] at h
  have h₁ := (List.prefix_append_right_inj _).1 h
  obtain ⟨hstart, h₂⟩ := Text.prefix_of_decimal rfl rfl rfl rfl h₁
  have h₃ := (List.cons_prefix_cons.1 h₂).2
  obtain ⟨hstop, h₄⟩ := Text.prefix_of_decimal rfl rfl rfl rfl h₃
  have h₅ := (List.prefix_append_right_inj _).1 h₄
  obtain ⟨-, h₆⟩ := Text.prefix_of_decimal rfl rfl rfl rfl h₅
  have h₇ := (List.prefix_append_right_inj _).1 h₆
  obtain ⟨-, h₈⟩ := Text.prefix_of_line (Text.break_not_mem_quoted t)
    (Text.break_not_mem_quoted u) h₇
  refine ⟨?_, h₈⟩
  cases x
  cases y
  simp only [Selection.mk.injEq]
  exact ⟨hstart, hstop⟩

/-- The number and the bar are the same in rows with one number, and the line ends at its line
feed. -/
theorem prefix_of_row {width k : Nat} {line line' : Text} (hline : '\n' ∉ line)
    (hline' : '\n' ∉ line') (h : row width k line ++ r <+: row width k line' ++ r') :
    line = line' ∧ r <+: r' := by
  unfold row at h
  simp only [List.append_assoc] at h
  have h₁ := (List.prefix_append_right_inj _).1 h
  have h₂ := (List.prefix_append_right_inj _).1 h₁
  exact Text.prefix_of_line hline hline' h₂

/-- Listings of as many lines, numbered from `k` on. -/
theorem prefix_of_listing (width : Nat) {ls ms : List Text} (k : Nat)
    (hls : ∀ line ∈ ls, '\n' ∉ line) (hms : ∀ line ∈ ms, '\n' ∉ line)
    (hlength : ls.length = ms.length)
    (h : ((ls.zipIdx k).flatMap fun e => row width e.2 e.1) <+:
      (ms.zipIdx k).flatMap fun e => row width e.2 e.1) : ls = ms := by
  induction ls generalizing ms k with
  | nil => exact (List.length_eq_zero_iff.1 hlength.symm).symm
  | cons line ls ih =>
    obtain ⟨line', ms, rfl⟩ := List.exists_cons_of_length_eq_add_one hlength.symm
    rw [List.zipIdx_cons, List.zipIdx_cons, List.flatMap_cons, List.flatMap_cons] at h
    obtain ⟨hline, h₁⟩ := prefix_of_row (hls line List.mem_cons_self)
      (hms line' List.mem_cons_self) h
    have hrest := ih (k + 1) (fun l hl => hls l (List.mem_cons_of_mem _ hl))
      (fun l hl => hms l (List.mem_cons_of_mem _ hl)) (Nat.succ.inj hlength) h₁
    rw [hline, hrest]

end Context

namespace Assist

/-- Requests with the same instructions to the assistant differ at most after the words in front of
the context. -/
theorem build_eq_build_iff {systemPrompt context context' said said' : Text} :
    Request.build systemPrompt context said = Request.build systemPrompt context' said' ↔
      context ++ ("\nInstruction: ".toList ++ Text.trim said) =
        context' ++ ("\nInstruction: ".toList ++ Text.trim said') := by
  constructor
  · intro h
    have huser : userMessage context said = userMessage context' said' := by
      unfold Request.build at h
      injection h with h
      injection h with _ h
      injection h with h _
      injection h
    unfold userMessage at huser
    rw [List.append_assoc, List.append_assoc, List.append_assoc, List.append_assoc] at huser
    exact List.append_cancel_left huser
  · intro h
    have huser : userMessage context said = userMessage context' said' := by
      unfold userMessage
      rw [List.append_assoc, List.append_assoc, List.append_assoc, List.append_assoc, h]
    unfold Request.build
    rw [huser]

end Assist

namespace State

variable {s t : State} {r r' : Text}

/-- The mark may be any text. It stands at the same place in both lines if the cursors are in the
same column. -/
theorem prefix_of_markedLine {marker : Text} (hp : s.position = t.position)
    (h : s.markedLine marker ++ ('\n' :: r) <+: t.markedLine marker ++ ('\n' :: r')) :
    r <+: r' := by
  obtain ⟨before, after, hs, hslength, hsmarked⟩ := s.exists_row_of_cursor marker
  obtain ⟨before', after', ht, htlength, htmarked⟩ := t.exists_row_of_cursor marker
  have hlength : before.length = before'.length := by rw [hslength, htlength, hp]
  have hsbreak := Text.not_mem_of_mem_lines (List.mem_of_getElem? hs)
  have htbreak := Text.not_mem_of_mem_lines (List.mem_of_getElem? ht)
  rw [List.mem_append, not_or] at hsbreak htbreak
  rw [hsmarked, htmarked] at h
  simp only [List.append_assoc] at h
  obtain ⟨-, h₁⟩ := Text.prefix_of_length hlength h
  have h₂ := (List.prefix_append_right_inj _).1 h₁
  exact (Text.prefix_of_line hsbreak.2 htbreak.2 h₂).2

theorem selected?_eq_none_iff : s.selected? = none ↔ s.selection.isCaret = true := by
  simp [selected?, hasSelection]

/-- **A context can be read back.** If the context of a state is a prefix of the context of another,
then the states are alike. -/
theorem alike_of_prefix_context {settings : Settings.Render}
    (h : s.context settings <+: t.context settings) : s.Alike t := by
  unfold context at h
  simp only [List.append_assoc, List.singleton_append] at h
  have h₁ := (List.prefix_append_right_inj _).1 h
  obtain ⟨hcount, h₂⟩ := Text.prefix_of_decimal rfl rfl rfl rfl h₁
  obtain ⟨⟨hposition, hcursor⟩, h₄⟩ :=
    Context.prefix_of_cursorLine (List.cons_prefix_cons.1 h₂).2
  -- The line of the selection and the line after it start with different letters.
  have h₅ : (s.selection = t.selection ∨
        s.selection.isCaret = true ∧ t.selection.isCaret = true) ∧
      "Current line: ".toList ++ (s.markedLine settings.cursorMarker ++ '\n' ::
          ("Content:\n".toList ++ Context.listing settings.lineNumberWidth s.content.lines)) <+:
        "Current line: ".toList ++ (t.markedLine settings.cursorMarker ++ '\n' ::
          ("Content:\n".toList ++
            Context.listing settings.lineNumberWidth t.content.lines)) := by
    cases hs : s.selected? with
    | none =>
      cases ht : t.selected? with
      | none =>
        rw [hs, ht] at h₄
        exact ⟨.inr ⟨selected?_eq_none_iff.1 hs, selected?_eq_none_iff.1 ht⟩, h₄⟩
      | some text =>
        rw [hs, ht] at h₄
        have hletter : 'C' = 'S' := (List.cons_prefix_cons.1 h₄).1
        cases hletter
    | some text =>
      cases ht : t.selected? with
      | none =>
        rw [hs, ht] at h₄
        have hletter : 'S' = 'C' := (List.cons_prefix_cons.1 h₄).1
        cases hletter
      | some text' =>
        rw [hs, ht] at h₄
        obtain ⟨hselection, h₅⟩ := Context.prefix_of_selectionLine h₄
        exact ⟨.inl hselection, h₅⟩
  obtain ⟨hselection, h₅⟩ := h₅
  have h₆ := prefix_of_markedLine hposition ((List.prefix_append_right_inj _).1 h₅)
  have h₇ := (List.prefix_append_right_inj _).1 h₆
  have hlength : s.content.lines.length = t.content.lines.length := by
    have hs : s.content.lines.length = s.content.lineCount := Text.length_lines _
    have ht : t.content.lines.length = t.content.lineCount := Text.length_lines _
    rw [hs, ht, hcount]
  have hlines := Context.prefix_of_listing settings.lineNumberWidth 1
    (fun _ => Text.not_mem_of_mem_lines) (fun _ => Text.not_mem_of_mem_lines) hlength h₇
  have hcontent : s.content = t.content := congrArg Buffer.mk (Text.lines_injective hlines)
  exact ⟨hcontent, hcursor, hselection⟩

/-- **A context loses nothing and cannot be confused with what follows it.** Under any settings,
the context of a state is a prefix of the context of another if and only if both have the same
content and cursor, and the same selected range if characters are selected in either. With the same
instructions to the assistant, requests are the same if and only if, besides, the user said the
same, but for the blanks around it. -/
theorem context_loses_nothing (settings : Settings.Render) (s t : State) :
    (s.context settings <+: t.context settings ↔ s.Alike t) ∧
      ∀ systemPrompt said said' : Text,
        Assist.Request.build systemPrompt (s.context settings) said =
            Assist.Request.build systemPrompt (t.context settings) said' ↔
          s.Alike t ∧ Text.trim said = Text.trim said' := by
  have hcontext : s.Alike t → s.context settings = t.context settings := fun h =>
    h.context settings
  refine ⟨⟨alike_of_prefix_context, fun h => ⟨[], ?_⟩⟩, fun systemPrompt said said' => ?_⟩
  · rw [List.append_nil, hcontext h]
  · rw [Assist.build_eq_build_iff]
    constructor
    · intro h
      have halike : s.Alike t := by
        -- Both contexts are prefixes of one message.
        rcases List.prefix_or_prefix_of_prefix ⟨_, h⟩ (List.prefix_append _ _) with hst | hts
        · exact alike_of_prefix_context hst
        · exact (alike_of_prefix_context hts).symm
      rw [hcontext halike] at h
      exact ⟨halike, List.append_cancel_left (List.append_cancel_left h)⟩
    · rintro ⟨halike, hsaid⟩
      rw [hcontext halike, hsaid]

end State
end EditScript
