import EditScript.Text.Basic

/-!
# Arguments

What the user asks for on the command line.

* `Arguments.read`: the invocation that the arguments stand for, or what is shown instead.
* `Flag`, `Level`: the options that are known before a subcommand, and those of each subcommand.

Arguments are read from left to right. An option takes its value from after an equals sign, from
the rest of its argument, or from the next argument; that one must not look like an option. The
option that shows the version is obeyed where it stands; whatever is wrong before it comes first,
and whatever is wrong after it does not count.
-/

namespace EditScript.CommandLine

/-- What the user asks for. -/
inductive Subcommand where
  /-- Runs a script and shows the result. -/
  | run (file script : Text) (cursor : Nat) (trace json : Bool)
  /-- Runs a script line by line. -/
  | step (file script : Text) (cursor : Nat)
  /-- Shows what the assistant would see. -/
  | context (file : Text) (cursor : Nat)
  /-- Asks the assistant for a change. -/
  | ask (file instruction : Text) (cursor : Nat) (dryRun : Bool) (replay : Option Text)
  /-- Shows the settings that are used by default. -/
  | defaultSettings

/-- A subcommand with the settings file to use. -/
structure Invocation where
  /-- The settings file that the user names. -/
  settings : Option Text
  /-- What the user asks for. -/
  subcommand : Subcommand

/-- The files that a subcommand reads. -/
def Subcommand.files : Subcommand → List Text
  | run file script _ _ _ => [file, script]
  | step file script _ => [file, script]
  | context file _ => [file]
  | ask file _ _ _ replay => file :: replay.toList
  | defaultSettings => []

/-- What is shown instead of obeying. -/
inductive Notice where
  /-- The version of the program. -/
  | version
  /-- How the program is used. -/
  | help
  /-- The arguments make no sense. -/
  | usage
  deriving DecidableEq

/-- The name of a subcommand. -/
inductive Level where
  | run
  | step
  | context
  | ask
  | defaultSettings
  deriving DecidableEq

/-- An option. -/
inductive Flag where
  | settings
  | verbose
  | script
  | cursor
  | trace
  | json
  | dryRun
  | replay
  | version
  | help
  deriving DecidableEq

/-- The word for a subcommand. -/
def Level.name : Level → String
  | run => "run"
  | step => "step"
  | context => "context"
  | ask => "ask"
  | defaultSettings => "default-config"

/-- All subcommands. -/
def Level.all : List Level := [run, step, context, ask, defaultSettings]

/-- The number of arguments besides the options. -/
def Level.operands : Level → Nat
  | run => 1
  | step => 1
  | context => 1
  | ask => 2
  | defaultSettings => 0

/-- The options that are known before a subcommand, or after it. -/
def Flag.known : Option Level → List Flag
  | none => [settings, verbose, help, version]
  | some .run => [script, cursor, trace, json, settings, verbose, help]
  | some .step => [script, cursor, settings, verbose, help]
  | some .context => [cursor, settings, verbose, help]
  | some .ask => [cursor, dryRun, replay, settings, verbose, help]
  | some .defaultSettings => [settings, verbose, help]

/-- The long name of an option. -/
def Flag.long : Flag → String
  | settings => "config"
  | verbose => "verbose"
  | script => "script"
  | cursor => "cursor"
  | trace => "trace"
  | json => "json"
  | dryRun => "dry-run"
  | replay => "replay"
  | version => "version"
  | help => "help"

/-- The letter of an option. -/
def Flag.short? : Flag → Option Char
  | settings => some 'c'
  | verbose => some 'v'
  | script => some 's'
  | version => some 'V'
  | help => some 'h'
  | _ => none

/-- The option takes a value. -/
def Flag.takesValue : Flag → Bool
  | settings => true
  | script => true
  | cursor => true
  | replay => true
  | _ => false

/-- An offset as the user types it: digits, with a plus sign in front if need be. -/
def cursor? (word : Text) : Option Nat :=
  match word with
  | '+' :: digits => Text.offset? digits
  | digits => Text.offset? digits

/-- The value is one that the option takes. A path has at least one character. -/
def Flag.accepts (flag : Flag) (value : Text) : Bool :=
  match flag with
  | cursor => (cursor? value).isSome
  | _ => value ≠ []

/-- What has been given before a subcommand, or after it. -/
structure Given where
  /-- The options, each with its value. -/
  options : List (Flag × Text)
  /-- The other arguments, in order. -/
  operands : List Text

/-- The value of an option. -/
def Given.value? (g : Given) (flag : Flag) : Option Text :=
  (g.options.find? fun o => o.1 = flag).map Prod.snd

/-- The option has been given. -/
def Given.has (g : Given) (flag : Flag) : Bool := (g.value? flag).isSome

/-- The arguments up to some place. -/
structure Reading where
  /-- What has been given before the subcommand. -/
  before : Given
  /-- The subcommand, and what has been given after it. -/
  after : Option (Level × Given)
  /-- The option whose value is the next argument. -/
  pending : Option Flag
  /-- Two hyphens have been read: what follows are no options. -/
  plain : Bool

namespace Reading

/-- Nothing has been read. -/
def start : Reading := ⟨⟨[], []⟩, none, none, false⟩

/-- What has been given where the reading is. -/
def here (r : Reading) : Given :=
  match r.after with
  | none => r.before
  | some (_, g) => g

/-- The reading with something else given where it is. -/
def put (r : Reading) (g : Given) : Reading :=
  match r.after with
  | none => { r with before := g }
  | some (level, _) => { r with after := some (level, g) }

/-- The options that are known where the reading is. -/
def known (r : Reading) : List Flag := Flag.known (r.after.map Prod.fst)

/-- Notes an option with its value. Only `verbose` may be given twice. -/
def note (r : Reading) (flag : Flag) (value : Text) : Except Notice Reading :=
  if flag = .version then .error .version
  else if flag = .help then .error .help
  else if flag ≠ .verbose ∧ r.here.has flag then .error .usage
  else if flag.takesValue ∧ !flag.accepts value then .error .usage
  else .ok (r.put { r.here with options := r.here.options ++ [(flag, value)] })

/-- Goes on with an argument that is no option. -/
def operand (r : Reading) (word : Text) : Except Notice Reading :=
  match r.after with
  | none =>
    if r.plain then .error .usage
    else
      match Level.all.find? fun level => level.name.toList = word with
      | some level => .ok { r with after := some (level, ⟨[], []⟩) }
      | none => .error (if word = "help".toList then .help else .usage)
  | some (level, g) =>
    let first := g.operands.isEmpty
    if g.operands.length < level.operands ∧ (word ≠ [] ∨ !first) then
      .ok { r with after := some (level, { g with operands := g.operands ++ [word] }) }
    else .error .usage

/-- Goes on with an option that is written out, its hyphens already read. -/
def long (r : Reading) (word : Text) : Except Notice Reading :=
  let name := word.takeWhile (· ≠ '=')
  match r.known.find? fun flag => flag.long.toList = name with
  | none => .error .usage
  | some flag =>
    match word.dropWhile (· ≠ '=') with
    | _ :: value => if flag.takesValue then r.note flag value else .error .usage
    | [] => if flag.takesValue then .ok { r with pending := some flag } else r.note flag []

/-- Goes on with the letters of options, their hyphen already read. -/
def short (r : Reading) : Text → Except Notice Reading
  | [] => .ok r
  | c :: rest =>
    match r.known.find? fun flag => flag.short? = some c with
    | none => .error .usage
    | some flag =>
      if flag.takesValue then
        match rest with
        | [] => .ok { r with pending := some flag }
        | '=' :: value => r.note flag value
        | value => r.note flag value
      else do short (← r.note flag []) rest

/-- Goes on with an argument. -/
def feed (r : Reading) (word : Text) : Except Notice Reading :=
  match r.pending with
  | some flag =>
    if word.head? = some '-' ∧ word ≠ ['-'] then .error .usage
    else { r with pending := none }.note flag word
  | none =>
    if r.plain then r.operand word
    else
      match word with
      | ['-', '-'] => .ok { r with plain := true }
      | '-' :: '-' :: name => r.long name
      | '-' :: c :: rest => r.short (c :: rest)
      | word => r.operand word

/-- The invocation when the arguments end. The settings file that is named after the subcommand
counts more than the one that is named before it. -/
def finish? (r : Reading) : Option Invocation := do
  if r.pending.isSome then none
  let (level, g) ← r.after
  let settings := (g.value? .settings).or (r.before.value? .settings)
  let cursor := ((g.value? .cursor).bind cursor?).getD 0
  let subcommand ← match level, g.operands with
    | .run, [file] => do
      some (Subcommand.run file (← g.value? .script) cursor (g.has .trace) (g.has .json))
    | .step, [file] => do some (.step file (← g.value? .script) cursor)
    | .context, [file] => some (.context file cursor)
    | .ask, [file, instruction] =>
      some (.ask file instruction cursor (g.has .dryRun) (g.value? .replay))
    | .defaultSettings, [] => some .defaultSettings
    | _, _ => none
  return ⟨settings, subcommand⟩

end Reading

/-- The invocation that the arguments stand for. -/
def readArguments (args : List Text) : Except Notice Invocation := do
  let r ← args.foldlM Reading.feed .start
  match r.finish? with
  | some invocation => return invocation
  | none => throw .usage

end EditScript.CommandLine
