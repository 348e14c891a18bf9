import EditScript.Proofs.Command.Grammar
import EditScript.Proofs.Text.Words

/-!
# Refused lines

What is wrong with a line that is no command, said by its words, and which error says so.

* `Command.NoOffset`, `Command.Misfit`: words that are no offsets, and arguments that a keyword for
  offsets does not take.
* `Command.Refused`: the lines that are no commands, each with its error. There is one constructor
  for each thing that can be wrong.
* `Command.parse_opens`: a line is read as its first word and the rest without the blanks around it.
* `Command.parseMove_eq_error_iff`, `Command.parseSelect_eq_error_iff`,
  `Command.parseInsert_eq_error_iff`: what each keyword refuses.
* `Command.parse_eq_error_iff`: a line is refused with an error if and only if the error says what
  is wrong with it.
* `Command.refusals_named`: what this means for each kind of error.
-/

namespace EditScript

open Text (Blank Gap Solid Bare Numeral Opens Worded)

/-- How many offsets the keyword takes, if offsets are what it takes. -/
def Keyword.offsets? : Keyword → Option Nat
  | .move => some 1
  | .select => some 2
  | .insert | .delete => none

namespace Command

variable {line args word rest : Text} {ws : List Text} {e : CommandError} {k : Keyword} {n : Nat}

/-- The word has a character that is no ASCII digit, or stands for a number that is too large. -/
def NoOffset (word : Text) : Prop :=
  (∃ c ∈ word, c.isDigit = false) ∨ ∃ value, Numeral word value ∧ Text.offsetLimit ≤ value

/-- There are words, but not as many as there have to be, or there is one that is no offset. -/
def Misfit (n : Nat) (ws : List Text) : Prop :=
  ws ≠ [] ∧ (ws.length ≠ n ∨ ∃ w ∈ ws, NoOffset w)

/-- **The refused lines**, each with the error for what is wrong with it. -/
inductive Refused : Text → CommandError → Prop
  | blank {line : Text} (h : Blank line) : Refused line (.invalidFormat "empty command".toList)
  | unknown {line word rest : Text} (h : Opens line word rest)
      (hk : ∀ k : Keyword, ¬k.Spelled word) : Refused line (.unknownCommand word)
  | alone {line word : Text} {k : Keyword} (h : Worded line [word]) (hk : k.Spelled word)
      (hne : k ≠ .delete) : Refused line (noArguments k)
  | textless {line word : Text} (h : Worded line [word, ['"', '"']])
      (hk : Keyword.insert.Spelled word) : Refused line (noArguments .insert)
  | misfit {line word rest : Text} {ws : List Text} {k : Keyword} {n : Nat}
      (h : Opens line word rest) (hk : k.Spelled word) (hn : k.offsets? = some n)
      (hr : Worded rest ws) (hm : Misfit n ws) : Refused line (badArguments k (Text.trim rest))

/-! ## Arguments -/

theorem offset?_eq_none_iff (h : word ≠ []) : Text.offset? word = none ↔ NoOffset word := by
  have hread : Text.offset? word = none ↔ ∀ n, ¬(Numeral word n ∧ n < Text.offsetLimit) := by
    rw [Option.eq_none_iff_forall_ne_some]
    exact forall_congr' fun n => not_congr Text.offset?_eq_some_iff
  rw [hread]
  constructor
  · intro hnone
    by_cases hd : ∀ c ∈ word, c.isDigit = true
    · have hn := Text.numeral_ofDigitChars h hd
      exact .inr ⟨_, hn, Nat.le_of_not_lt fun hlt => hnone _ ⟨hn, hlt⟩⟩
    · simp only [not_forall, Bool.not_eq_true] at hd
      obtain ⟨c, hc, hdigit⟩ := hd
      exact .inl ⟨c, hc, hdigit⟩
  · rintro (⟨c, hc, hdigit⟩ | ⟨value, hvalue, hle⟩) n ⟨hn, hlt⟩
    · rw [hn.isDigit c hc] at hdigit
      cases hdigit
    · -- A word stands for one number only.
      have hsame : value = n := by rw [← hvalue.ofDigitChars, hn.ofDigitChars]
      omega

/-- Which arguments do not fit, by what the reader of offsets says of them. -/
theorem misfit_iff (hs : ∀ w ∈ ws, Solid w) :
    Misfit n ws ↔ ws ≠ [] ∧ (ws.length ≠ n ∨ ∃ w ∈ ws, Text.offset? w = none) := by
  have hread : (∃ w ∈ ws, NoOffset w) ↔ ∃ w ∈ ws, Text.offset? w = none :=
    exists_congr fun w => and_congr_right fun hw => (offset?_eq_none_iff (hs w hw).ne_nil).symm
  unfold Misfit
  rw [hread]

theorem parseMove_eq_error_iff (hw : Worded args ws) : parseMove args = .error e ↔
    ws = [] ∧ noArguments .move = e ∨ Misfit 1 ws ∧ badArguments .move args = e := by
  rw [misfit_iff hw.solid]
  unfold parseMove
  rw [hw.words_eq]
  match ws with
  | [] => simp
  | [word] => cases ho : Text.offset? word <;> simp [ho]
  | _ :: _ :: _ => simp

theorem parseSelect_eq_error_iff (hw : Worded args ws) : parseSelect args = .error e ↔
    ws = [] ∧ noArguments .select = e ∨ Misfit 2 ws ∧ badArguments .select args = e := by
  rw [misfit_iff hw.solid]
  unfold parseSelect
  rw [hw.words_eq]
  match ws with
  | [] => simp
  | [_] => simp
  | [first, second] =>
    cases hf : Text.offset? first <;> cases hs : Text.offset? second <;> simp [hf, hs]
  | _ :: _ :: _ :: _ => simp

theorem parseInsert_eq_error_iff (ha : Bare args) (hw : Worded args ws) :
    parseInsert args = .error e ↔ (ws = [] ∨ ws = [['"', '"']]) ∧ noArguments .insert = e := by
  have hempty : unquote args = [] ↔ args = [] ∨ args = ['"', '"'] := by
    constructor
    · intro h
      cases unquote_eq_iff.1 h with
      | quoted => exact .inr rfl
      | plain => exact .inl rfl
    · rintro (rfl | rfl) <;> rfl
  have hnone : args = [] ↔ ws = [] := by
    rw [← hw.words_eq]
    exact ⟨fun h => h ▸ rfl, fun h => by_contra fun hne => ha.words_ne_nil hne h⟩
  have hquotes : args = ['"', '"'] ↔ ws = [['"', '"']] := by
    have hsolid : Solid ['"', '"'] :=
      ⟨List.cons_ne_nil _ _, List.forall_mem_cons.2 ⟨rfl, List.forall_mem_singleton.2 rfl⟩⟩
    rw [← hw.words_eq, ha.words_eq_singleton_iff]
    exact ⟨fun h => ⟨hsolid, h⟩, And.right⟩
  rw [← hnone, ← hquotes, ← hempty]
  unfold parseInsert
  split
  · rename_i h
    simp [h]
  · rename_i h
    simp [h]

/-! ## Lines -/

/-- A line is read as its first word and the rest, without the blanks around it. -/
theorem parse_opens (h : Opens line word rest) :
    parse line = interpret word (Text.trim rest) := by
  rcases h.trim with ⟨hrest, hline⟩ | ⟨gap, hg, hline⟩
  · rw [parse_word h.solid hline, hrest]
  · exact parse_word_args h.solid hg (Text.bare_trim rest) hline

theorem parse_blank (h : Blank line) :
    parse line = .error (.invalidFormat "empty command".toList) :=
  parse_nil (Text.trim_eq_nil_iff.2 (Text.trimStart_eq_nil_iff.2 h))

theorem parse_unknown (h : Opens line word rest) (hk : ∀ k : Keyword, ¬k.Spelled word) :
    parse line = .error (.unknownCommand word) := by
  have hnone : Keyword.ofWord? word = none :=
    Option.eq_none_iff_forall_ne_some.2 fun k hw => hk k (Keyword.ofWord?_eq_some_iff.1 hw)
  rw [parse_opens h]
  unfold interpret
  rw [hnone]

/-- Of the lines that open with a keyword: which of them are refused, and with which error. -/
theorem parse_keyword_eq_error_iff (h : Opens line word rest) (hk : k.Spelled word)
    (hr : Worded rest ws) : parse line = .error e ↔
      (k ≠ .delete ∧ ws = [] ∨ k = .insert ∧ ws = [['"', '"']]) ∧ noArguments k = e ∨
        ∃ n, k.offsets? = some n ∧ Misfit n ws ∧ badArguments k (Text.trim rest) = e := by
  have hargs : Worded (Text.trim rest) ws :=
    Text.worded_iff.2 ((Text.words_trim rest).trans hr.words_eq)
  rw [parse_opens h, interpret_spelled hk]
  cases k with
  | move => simp [parseMove_eq_error_iff hargs, Keyword.offsets?]
  | select => simp [parseSelect_eq_error_iff hargs, Keyword.offsets?]
  | insert => simp [parseInsert_eq_error_iff (Text.bare_trim rest) hargs, Keyword.offsets?]
  | delete => simp [Keyword.offsets?]

theorem Refused.parse_eq_error (h : Refused line e) : parse line = .error e := by
  cases h with
  | blank h => exact parse_blank h
  | unknown h hk => exact parse_unknown h hk
  | alone h hk hne =>
    cases h with
    | word ho hr => exact (parse_keyword_eq_error_iff ho hk hr).2 (.inl ⟨.inl ⟨hne, rfl⟩, rfl⟩)
  | textless h hk =>
    cases h with
    | word ho hr => exact (parse_keyword_eq_error_iff ho hk hr).2 (.inl ⟨.inr ⟨rfl, rfl⟩, rfl⟩)
  | misfit h hk hn hr hm => exact (parse_keyword_eq_error_iff h hk hr).2 (.inr ⟨_, hn, hm, rfl⟩)

theorem refused_of_parse (h : parse line = .error e) : Refused line e := by
  rcases Text.blank_or_opens line with hb | ⟨word, rest, ho⟩
  · rw [parse_blank hb] at h
    cases h
    exact .blank hb
  · by_cases hk : ∃ k : Keyword, k.Spelled word
    · obtain ⟨k, hk⟩ := hk
      have hr := Text.worded_words rest
      rcases (parse_keyword_eq_error_iff ho hk hr).1 h with ⟨hnone, rfl⟩ | ⟨n, hn, hm, rfl⟩
      · rcases hnone with ⟨hne, hws⟩ | ⟨rfl, hws⟩
        · exact .alone (.word ho (hws ▸ hr)) hk hne
        · exact .textless (.word ho (hws ▸ hr)) hk
      · exact .misfit ho hk hn hr hm
    · have hunknown : ∀ k : Keyword, ¬k.Spelled word := fun k hs => hk ⟨k, hs⟩
      rw [parse_unknown ho hunknown] at h
      cases h
      exact .unknown ho hunknown

/-- **A line is refused with the error that says what is wrong with it**, and with no other. -/
theorem parse_eq_error_iff : parse line = .error e ↔ Refused line e :=
  ⟨refused_of_parse, Refused.parse_eq_error⟩

/-- **Each refused line gets its error.** A line has an invalid format if and only if it is all
blanks; its command is unknown if and only if its first word, which the error repeats, spells no
keyword. An argument is missing if and only if the line is a keyword other than `DELETE` and
nothing else, or `INSERT` and two quotation marks. The arguments are invalid if and only if the
keyword takes offsets and there are words after it, but not as many as it takes, or one of them is
no offset; the error repeats what follows the keyword, without the blanks around it. A line that
opens with `DELETE` is never refused, and no line gets an error that is about a state. -/
theorem refusals_named (line : Text) :
    (∀ reason, parse line = .error (.invalidFormat reason) ↔
      Blank line ∧ reason = "empty command".toList) ∧
    (∀ word, parse line = .error (.unknownCommand word) ↔
      (∃ rest, Opens line word rest) ∧ ∀ k : Keyword, ¬k.Spelled word) ∧
    (∀ command expected, parse line = .error (.missingArgument command expected) ↔
      ∃ k : Keyword, command = k.name ∧ expected = k.expected ∧ ∃ word, k.Spelled word ∧
        (k ≠ .delete ∧ Worded line [word] ∨
          k = .insert ∧ Worded line [word, ['"', '"']])) ∧
    (∀ command args expected, parse line = .error (.invalidArguments command args expected) ↔
      ∃ k : Keyword, command = k.name ∧ expected = k.expected ∧ ∃ word rest ws n,
        k.Spelled word ∧ Opens line word rest ∧ args = Text.trim rest ∧ Worded rest ws ∧
          k.offsets? = some n ∧ Misfit n ws) ∧
    (∀ word rest, Opens line word rest → Keyword.delete.Spelled word →
      parse line = .ok .delete) ∧
    (∀ position length, parse line ≠ .error (.positionOutOfRange position length)) ∧
    (∀ start stop length, parse line ≠ .error (.invalidRange start stop length)) ∧
    parse line ≠ .error .nothingToDelete ∧
    ∀ error, parse line ≠ .error (.buffer error) := by
  simp only [ne_eq, parse_eq_error_iff]
  refine ⟨fun reason => ⟨?_, ?_⟩, fun word => ⟨?_, ?_⟩, fun command expected => ⟨?_, ?_⟩,
    fun command args expected => ⟨?_, ?_⟩, fun word rest ho hk => ?_, fun _ _ h => ?_,
    fun _ _ _ h => ?_, fun h => ?_, fun _ h => ?_⟩
  · rintro ⟨h⟩
    exact ⟨h, rfl⟩
  · rintro ⟨h, rfl⟩
    exact .blank h
  · intro h
    cases h with
    | unknown h hk => exact ⟨⟨_, h⟩, hk⟩
  · rintro ⟨⟨rest, h⟩, hk⟩
    exact .unknown h hk
  · intro h
    cases h with
    | alone h hk hne => exact ⟨_, rfl, rfl, _, hk, .inl ⟨hne, h⟩⟩
    | textless h hk => exact ⟨_, rfl, rfl, _, hk, .inr ⟨rfl, h⟩⟩
  · rintro ⟨k, rfl, rfl, word, hk, ⟨hne, h⟩ | ⟨rfl, h⟩⟩
    · exact .alone h hk hne
    · exact .textless h hk
  · intro h
    cases h with
    | misfit h hk hn hr hm => exact ⟨_, rfl, rfl, _, _, _, _, hk, h, rfl, hr, hn, hm⟩
  · rintro ⟨k, rfl, rfl, word, rest, ws, n, hk, h, rfl, hr, hn, hm⟩
    exact .misfit h hk hn hr hm
  · rw [parse_opens ho, interpret_spelled hk]
  all_goals cases h

/-- A deletion with words after it, in another spelling and after a blank beyond ASCII; and an
offset that is too large by one. -/
theorem deletion_accepted_and_offset_refused :
    let deletion := "\u3000dElEtE \u00a0\"3\" chars".toList
    let offset := "18446744073709551616".toList
    let move := "move\t".toList ++ offset ++ [' ']
    Opens deletion "dElEtE".toList " \u00a0\"3\" chars".toList ∧
      Keyword.delete.Spelled "dElEtE".toList ∧ parse deletion = .ok .delete ∧
      Misfit 1 [offset] ∧ parse move =
        .error (.invalidArguments "MOVE" offset "one non-negative offset") := by
  intro deletion offset move
  have hhead : ∀ c rest, Text.isBlank c = true → ∀ d ∈ (c :: rest).head?, Text.isBlank d = true :=
    fun _ _ hc _ hd => Option.some.inj hd ▸ hc
  have hspelled : Keyword.delete.Spelled "dElEtE".toList := Keyword.spelled_iff.2 (by decide)
  have hdeletion : Opens deletion "dElEtE".toList " \u00a0\"3\" chars".toList :=
    .intro (Text.blank_singleton rfl) hspelled.solid (hhead ' ' _ rfl)
  have hvalue : Numeral offset 18446744073709551616 := Text.numeral_decimal 18446744073709551616
  have hmisfit : Misfit 1 [offset] :=
    ⟨List.cons_ne_nil _ _, .inr ⟨offset, List.mem_cons_self, .inr ⟨_, hvalue, by decide⟩⟩⟩
  have hkeyword : Keyword.move.Spelled "move".toList := Keyword.spelled_iff.2 (by decide)
  have hmove : Opens move "move".toList ("\t".toList ++ offset ++ [' ']) :=
    .intro Text.blank_nil hkeyword.solid (hhead '\t' _ rfl)
  have hoffset : Opens ("\t".toList ++ offset ++ [' ']) offset [' '] :=
    .intro (Text.blank_singleton rfl) hvalue.solid (hhead ' ' _ rfl)
  obtain ⟨-, -, -, -, hdelete, -⟩ := refusals_named deletion
  obtain ⟨-, -, -, hinvalid, -⟩ := refusals_named move
  refine ⟨hdeletion, hspelled, hdelete _ _ hdeletion hspelled, hmisfit, (hinvalid _ _ _).2 ?_⟩
  exact ⟨.move, rfl, rfl, _, _, [offset], 1, hkeyword, hmove, by decide,
    .word hoffset (.blank (Text.blank_singleton rfl)), rfl, hmisfit⟩

end Command
end EditScript
