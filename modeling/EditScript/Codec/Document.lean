import EditScript.Disk
import EditScript.Settings
import EditScript.Toml.Reader
import EditScript.Toml.Writer

/-!
# Settings documents

The settings as a TOML document.

* `Settings.ofToml?`: the settings of a document. It names what it changes; what it does not name
  keeps its default, and what it names besides is not looked at.
* `Settings.load`: the settings of a file, or why it gives none.
* `Settings.toTables?`, `Settings.write?`: the document that is written. A number that does not
  fit 64 bits with a sign cannot be written.
* `Settings.save`: the document is written to a path. The directories are made first, and nothing
  is written unless there is a document.
-/

namespace EditScript

namespace Toml

/-- The values of named fields: those of a table by name, or those of an array in order. A date
or a time has no fields. -/
def fields? (names : List String) : Toml → Option (List (Option Toml))
  | .table _ entries => some (names.map fun name => find? name.toList entries)
  | .array items => some (names.mapIdx fun place _ => items[place]?)
  | .tables elements =>
    some (names.mapIdx fun place _ => elements[place]?.map (.table .header))
  | .moment => some (names.map fun _ => none)
  | _ => none

/-- A string. -/
def text? : Toml → Option Text
  | .string t => some t
  | _ => none

/-- An offset or a size. -/
def offset? : Toml → Option Nat
  | .integer n => if 0 ≤ n then some n.natAbs else none
  | _ => none

/-- A truth value. -/
def bool? : Toml → Option Bool
  | .boolean b => some b
  | _ => none

/-- A list of strings. -/
def texts? : Toml → Option (List Text)
  | .array items => items.mapM text?
  | _ => none

/-- The value of a field that may be missing. -/
def orDefault {α : Type} (item? : Toml → Option α) (otherwise : α) : Option Toml → Option α
  | none => some otherwise
  | some v => item? v

/-- A number that fits 64 bits with a sign. -/
def ofNat? (n : Nat) : Option Toml := if n < Text.signedLimit then some (.integer n) else none

/-- A pair of a table that is written. -/
def pair (key : String) (value : Toml) : Text × Toml := (key.toList, value)

end Toml

namespace Settings

/-- The display settings that a TOML value stands for. -/
def Render.ofToml? (v : Toml) : Option Render :=
  let base : Render := {}
  match v.fields? ["cursor_marker", "line_number_width"] with
  | some [marker, width] => do
    return {
      cursorMarker := ← Toml.orDefault Toml.text? base.cursorMarker marker
      lineNumberWidth := ← Toml.orDefault Toml.offset? base.lineNumberWidth width }
  | _ => none

/-- The assistant settings that a TOML value stands for. -/
def Assist.ofToml? (v : Toml) : Option Assist :=
  let base : Assist := {}
  match v.fields? ["command", "args", "timeout_secs", "system_prompt", "strip_code_fences"] with
  | some [command, args, timeout, prompt, strip] => do
    return {
      command := ← Toml.orDefault (fun v => v.text?.map some) base.command command
      args := ← Toml.orDefault Toml.texts? base.args args
      timeoutSeconds := ← Toml.orDefault Toml.offset? base.timeoutSeconds timeout
      systemPrompt := ← Toml.orDefault (fun v => v.text?.map some) base.systemPrompt prompt
      stripCodeFences := ← Toml.orDefault Toml.bool? base.stripCodeFences strip }
  | _ => none

/-- The session settings that a TOML value stands for. -/
def Session.ofToml? (v : Toml) : Option Session :=
  let base : Session := {}
  match v.fields? ["log_capacity"] with
  | some [capacity] => do
    return { logCapacity := ← Toml.orDefault Toml.offset? base.logCapacity capacity }
  | _ => none

/-- The settings that a table stands for. -/
def ofToml? (entries : List (Text × Toml)) : Option Settings := do
  return {
    render := ← Toml.orDefault Render.ofToml? {} (Toml.find? "render".toList entries)
    assist := ← Toml.orDefault Assist.ofToml? {} (Toml.find? "assist".toList entries)
    session := ← Toml.orDefault Session.ofToml? {} (Toml.find? "session".toList entries) }

/-- The settings of a document. -/
def read? (document : Text) : Option Settings := do ofToml? (← Toml.document? document)

/-- Why a file gives no settings. -/
inductive LoadError where
  /-- It cannot be read. -/
  | io (cause : ReadError)
  /-- It is no settings document. -/
  | parse
  deriving DecidableEq

/-- What the user reads about the error. -/
def LoadError.message : LoadError → String
  | io cause => s!"IO error: {cause.message}"
  | parse => "Parse error: not a settings document"

/-- The settings of a file whose bytes have been read. -/
def load (bytes : Except ReadError Bytes) : Except LoadError Settings := do
  let document ← (readText bytes).mapError .io
  match read? document with
  | some s => return s
  | none => throw .parse

/-- The tables that the settings are written as. -/
def toTables? (s : Settings) : Option (List (Text × List (Text × Toml))) := do
  let width ← Toml.ofNat? s.render.lineNumberWidth
  let timeout ← Toml.ofNat? s.assist.timeoutSeconds
  let capacity ← Toml.ofNat? s.session.logCapacity
  return [
    ("render".toList, [
      Toml.pair "cursor_marker" (.string s.render.cursorMarker),
      Toml.pair "line_number_width" width]),
    ("assist".toList,
      (s.assist.command.map fun c => Toml.pair "command" (.string c)).toList ++ [
        Toml.pair "args" (.array (s.assist.args.map .string)),
        Toml.pair "timeout_secs" timeout] ++
      (s.assist.systemPrompt.map fun p => Toml.pair "system_prompt" (.string p)).toList ++ [
        Toml.pair "strip_code_fences" (.boolean s.assist.stripCodeFences)]),
    ("session".toList, [Toml.pair "log_capacity" capacity])]

/-- The document that the settings are written as. -/
def write? (s : Settings) : Option Text := s.toTables?.map Toml.writeTables

/-- Why settings are not written. -/
inductive SaveError where
  /-- Their file or one of its directories cannot be written. -/
  | io (cause : ReadError)
  /-- They have no document. -/
  | serialize
  deriving DecidableEq

/-- What the user reads about the error. -/
def SaveError.message : SaveError → String
  | io cause => s!"IO error: {cause.message}"
  | serialize => "Serialize error: a number is out of range"

/-- Writes the settings to a path. -/
def save (s : Settings) (path : Text) : EStateM SaveError Disk Unit := do
  (Disk.makeParents path).adaptExcept .io
  match s.write? with
  | none => throw .serialize
  | some document => (Disk.write path (Text.toBytes document)).adaptExcept .io

end Settings

end EditScript
