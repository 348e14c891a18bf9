import EditScript.Proofs.Disk
import EditScript.Proofs.Text.Utf8
import EditScript.Proofs.Toml.Fields

/-!
# Settings survive on a disk

A settings document may name any of the known fields. The settings that it stands for are the
defaults with new values for these, and nothing else. What is written names every field that has a
value. An option without one is left out, and comes back since it has none by default either. So
reading what has been written is a case of reading a document that names some fields.

* `Settings.Changes`, `Settings.Changes.over`: values for some of the fields, put in place of those
  that settings have.
* `Settings.Changes.NamedBy`: a document names these fields with these values, in tables of any
  kind.
* `Settings.load_of_namedBy`: what such a document comes to.
* `Settings.Fits`, `Settings.write?_of_fits`, `Settings.write?_of_not_fits`: the settings that can
  be written, and their document.
* `Settings.load_of_save`, `Settings.save_of_not_fits`: what saving leaves on a disk.
* `Settings.settings_survive`: all of this for any disk and any path.
-/

namespace EditScript.Settings

open Toml (Field Give Gives Nameable)

/-! ## Changes -/

/-- New display settings. -/
structure Render.Changes where
  cursorMarker : Option Text := none
  lineNumberWidth : Option Nat := none

/-- New assistant settings. Absent options cannot be named. -/
structure Assist.Changes where
  command : Option Text := none
  args : Option (List Text) := none
  timeoutSeconds : Option Nat := none
  systemPrompt : Option Text := none
  stripCodeFences : Option Bool := none

/-- New session settings. -/
structure Session.Changes where
  logCapacity : Option Nat := none

/-- New values for some of the settings. -/
structure Changes where
  render : Render.Changes := {}
  assist : Assist.Changes := {}
  session : Session.Changes := {}

def Render.Changes.over (c : Render.Changes) (s : Render) : Render where
  cursorMarker := c.cursorMarker.getD s.cursorMarker
  lineNumberWidth := c.lineNumberWidth.getD s.lineNumberWidth

def Assist.Changes.over (c : Assist.Changes) (s : Assist) : Assist where
  command := c.command.or s.command
  args := c.args.getD s.args
  timeoutSeconds := c.timeoutSeconds.getD s.timeoutSeconds
  systemPrompt := c.systemPrompt.or s.systemPrompt
  stripCodeFences := c.stripCodeFences.getD s.stripCodeFences

def Session.Changes.over (c : Session.Changes) (s : Session) : Session where
  logCapacity := c.logCapacity.getD s.logCapacity

/-- The settings with the new values in place of those that they have. -/
def Changes.over (c : Changes) (s : Settings) : Settings where
  render := c.render.over s.render
  assist := c.assist.over s.assist
  session := c.session.over s.session

def Render.Changes.fields (c : Render.Changes) : List Field := [
  ("cursor_marker", c.cursorMarker.map .string),
  ("line_number_width", c.lineNumberWidth.map Toml.nat)]

def Assist.Changes.fields (c : Assist.Changes) : List Field := [
  ("command", c.command.map .string),
  ("args", c.args.map Toml.texts),
  ("timeout_secs", c.timeoutSeconds.map Toml.nat),
  ("system_prompt", c.systemPrompt.map .string),
  ("strip_code_fences", c.stripCodeFences.map .boolean)]

def Session.Changes.fields (c : Session.Changes) : List Field := [
  ("log_capacity", c.logCapacity.map Toml.nat)]

/-- A document names these fields with these values. Of the other known fields it names none. -/
structure Changes.NamedBy (c : Changes) (entries : List (Text × Toml)) : Prop where
  render : Gives c.render.fields (Toml.find? "render".toList entries)
  assist : Gives c.assist.fields (Toml.find? "assist".toList entries)
  session : Gives c.session.fields (Toml.find? "session".toList entries)

variable {s : Settings} {c : Changes} {entries : List (Text × Toml)} {path document : Text}
  {d d' : Disk}

/-! ## Reading -/

theorem Render.ofToml?_table (c : Render.Changes) (origin : Toml.Origin)
    (entries : List (Text × Toml)) (h : Give c.fields entries) :
    Render.ofToml? (.table origin entries) = some (c.over {}) := by
  have hfields : (Toml.table origin entries).fields? ["cursor_marker", "line_number_width"] =
      some (c.fields.map Prod.snd) := Toml.fields?_of_give h origin
  unfold Render.ofToml?
  simp only [hfields, Changes.fields, List.map_cons, List.map_nil,
    Toml.orDefault_map Toml.text?_string, Toml.orDefault_map Toml.offset?_nat]
  rfl

theorem Assist.ofToml?_table (c : Assist.Changes) (origin : Toml.Origin)
    (entries : List (Text × Toml)) (h : Give c.fields entries) :
    Assist.ofToml? (.table origin entries) = some (c.over {}) := by
  have hfields : (Toml.table origin entries).fields?
      ["command", "args", "timeout_secs", "system_prompt", "strip_code_fences"] =
      some (c.fields.map Prod.snd) := Toml.fields?_of_give h origin
  unfold Assist.ofToml?
  simp only [hfields, Changes.fields, List.map_cons, List.map_nil,
    Toml.orDefault_map_some Toml.text?_string, Toml.orDefault_map Toml.texts?_texts,
    Toml.orDefault_map Toml.offset?_nat, Toml.orDefault_map Toml.bool?_boolean]
  rfl

theorem Session.ofToml?_table (c : Session.Changes) (origin : Toml.Origin)
    (entries : List (Text × Toml)) (h : Give c.fields entries) :
    Session.ofToml? (.table origin entries) = some (c.over {}) := by
  have hfields : (Toml.table origin entries).fields? ["log_capacity"] =
      some (c.fields.map Prod.snd) := Toml.fields?_of_give h origin
  unfold Session.ofToml?
  simp only [hfields, Changes.fields, List.map_cons, List.map_nil,
    Toml.orDefault_map Toml.offset?_nat]
  rfl

/-- **A document stands for the defaults** with the fields that it names replaced. -/
theorem ofToml?_of_namedBy (h : c.NamedBy entries) : ofToml? entries = some (c.over {}) := by
  have hrender : Toml.orDefault Render.ofToml? {} (Toml.find? "render".toList entries) =
      some (c.render.over {}) :=
    Toml.orDefault_of_gives h.render rfl (Render.ofToml?_table c.render)
  have hassist : Toml.orDefault Assist.ofToml? {} (Toml.find? "assist".toList entries) =
      some (c.assist.over {}) :=
    Toml.orDefault_of_gives h.assist rfl (Assist.ofToml?_table c.assist)
  have hsession : Toml.orDefault Session.ofToml? {} (Toml.find? "session".toList entries) =
      some (c.session.over {}) :=
    Toml.orDefault_of_gives h.session rfl (Session.ofToml?_table c.session)
  unfold ofToml?
  rw [hrender, hassist, hsession]
  rfl

theorem load_of_namedBy {bytes : Except ReadError Bytes} (htext : readText bytes = .ok document)
    (hdocument : Toml.document? document = some entries) (h : c.NamedBy entries) :
    load bytes = .ok (c.over {}) := by
  have hread : read? document = some (c.over {}) := by
    unfold read?
    rw [hdocument]
    exact ofToml?_of_namedBy h
  simp only [load, htext, Except.mapError, bind, Except.bind, hread]
  rfl

/-! ## Writing -/

/-- The tables that name the fields. -/
def Changes.tables (c : Changes) : List (Text × List (Text × Toml)) := [
  ("render".toList, Toml.named c.render.fields),
  ("assist".toList, Toml.named c.assist.fields),
  ("session".toList, Toml.named c.session.fields)]

/-- No number is too large for a document. -/
structure Changes.Fits (c : Changes) : Prop where
  lineNumberWidth : ∀ n ∈ c.render.lineNumberWidth, n < Text.signedLimit
  timeoutSeconds : ∀ n ∈ c.assist.timeoutSeconds, n < Text.signedLimit
  logCapacity : ∀ n ∈ c.session.logCapacity, n < Text.signedLimit

theorem Render.Changes.nameable (c : Render.Changes) : Nameable c.fields where
  distinct := show ["cursor_marker", "line_number_width"].Nodup by decide
  bare := show ∀ name ∈ ["cursor_marker", "line_number_width"], Toml.Bare name.toList by decide

theorem Assist.Changes.nameable (c : Assist.Changes) : Nameable c.fields where
  distinct :=
    show ["command", "args", "timeout_secs", "system_prompt", "strip_code_fences"].Nodup by decide
  bare :=
    show ∀ name ∈ ["command", "args", "timeout_secs", "system_prompt", "strip_code_fences"],
      Toml.Bare name.toList by decide

theorem Session.Changes.nameable (c : Session.Changes) : Nameable c.fields where
  distinct := show ["log_capacity"].Nodup by decide
  bare := show ∀ name ∈ ["log_capacity"], Toml.Bare name.toList by decide

/-- The values of a field can be written. -/
theorem plain_of_map {α : Type} {write : α → Toml} {a? : Option α} {v : Toml}
    (h : ∀ a ∈ a?, Toml.Plain (write a)) (hv : a?.map write = some v) : Toml.Plain v := by
  obtain ⟨a, ha, rfl⟩ := Option.map_eq_some_iff.1 hv
  exact h a ha

theorem Changes.orderly_tables (h : c.Fits) : Toml.Orderly c.tables where
  bare := by
    have hbare : ∀ name ∈ c.tables.map Prod.fst, Toml.Bare name :=
      show ∀ name ∈ ["render".toList, "assist".toList, "session".toList], Toml.Bare name by decide
    exact fun table htable => hbare table.1 (List.mem_map_of_mem htable)
  pairs := by
    simp only [tables, List.forall_mem_cons]
    refine ⟨Toml.orderlyPairs_named c.render.nameable ?_,
      Toml.orderlyPairs_named c.assist.nameable ?_,
      Toml.orderlyPairs_named c.session.nameable ?_, nofun⟩
    · simp only [Render.Changes.fields, List.forall_mem_cons]
      exact ⟨fun v => plain_of_map fun t _ => Toml.plain_string t,
        fun v => plain_of_map fun n hn => Toml.plain_nat (h.lineNumberWidth n hn), nofun⟩
    · simp only [Assist.Changes.fields, List.forall_mem_cons]
      exact ⟨fun v => plain_of_map fun t _ => Toml.plain_string t,
        fun v => plain_of_map fun ts _ => Toml.plain_texts ts,
        fun v => plain_of_map fun n hn => Toml.plain_nat (h.timeoutSeconds n hn),
        fun v => plain_of_map fun t _ => Toml.plain_string t,
        fun v => plain_of_map fun b _ => Toml.plain_boolean b, nofun⟩
    · simp only [Session.Changes.fields, List.forall_mem_cons]
      exact ⟨fun v => plain_of_map fun n hn => Toml.plain_nat (h.logCapacity n hn), nofun⟩
  distinct := show ["render".toList, "assist".toList, "session".toList].Nodup by decide

theorem Changes.namedBy_tables (c : Changes) : c.NamedBy (c.tables.map Toml.entryOf) where
  render := .table .header (Toml.give_named c.render.nameable.distinct)
  assist := .table .header (Toml.give_named c.assist.nameable.distinct)
  session := .table .header (Toml.give_named c.session.nameable.distinct)

/-- Values for all fields, but for options that are absent. -/
def Changes.of (s : Settings) : Changes where
  render := ⟨some s.render.cursorMarker, some s.render.lineNumberWidth⟩
  assist := ⟨s.assist.command, some s.assist.args, some s.assist.timeoutSeconds,
    s.assist.systemPrompt, some s.assist.stripCodeFences⟩
  session := ⟨some s.session.logCapacity⟩

/-- **Absent options are absent by default**, so that nothing is lost by not naming them. -/
theorem Changes.over_of (s : Settings) : (Changes.of s).over {} = s := by
  obtain ⟨⟨marker, width⟩, ⟨command, args, timeout, prompt, strip⟩, ⟨capacity⟩⟩ := s
  cases command <;> cases prompt <;> rfl

/-- The numbers of the settings fit 64 bits with a sign. -/
structure Fits (s : Settings) : Prop where
  lineNumberWidth : s.render.lineNumberWidth < Text.signedLimit
  timeoutSeconds : s.assist.timeoutSeconds < Text.signedLimit
  logCapacity : s.session.logCapacity < Text.signedLimit

instance (s : Settings) : Decidable s.Fits :=
  decidable_of_iff (s.render.lineNumberWidth < Text.signedLimit ∧
      s.assist.timeoutSeconds < Text.signedLimit ∧ s.session.logCapacity < Text.signedLimit)
    ⟨fun ⟨hw, ht, hc⟩ => ⟨hw, ht, hc⟩,
      fun h => ⟨h.lineNumberWidth, h.timeoutSeconds, h.logCapacity⟩⟩

theorem Fits.changes_of (h : s.Fits) : (Changes.of s).Fits where
  lineNumberWidth _ hn := Option.some.inj hn ▸ h.lineNumberWidth
  timeoutSeconds _ hn := Option.some.inj hn ▸ h.timeoutSeconds
  logCapacity _ hn := Option.some.inj hn ▸ h.logCapacity

/-- The document names all fields. -/
theorem write?_of_fits (h : s.Fits) : s.write? = some (Toml.writeTables (Changes.of s).tables) := by
  have htables : s.toTables? = some (Changes.of s).tables := by
    unfold toTables? Toml.ofNat?
    rw [if_pos h.lineNumberWidth, if_pos h.timeoutSeconds, if_pos h.logCapacity]
    obtain ⟨render, ⟨command, args, timeout, prompt, strip⟩, session⟩ := s
    cases command <;> cases prompt <;> rfl
  unfold write?
  rw [htables]
  rfl

theorem write?_of_not_fits (h : ¬ s.Fits) : s.write? = none := by
  have htables : s.toTables? = none := by
    unfold toTables? Toml.ofNat?
    by_cases hwidth : s.render.lineNumberWidth < Text.signedLimit
    · by_cases htimeout : s.assist.timeoutSeconds < Text.signedLimit
      · have hcapacity : ¬ s.session.logCapacity < Text.signedLimit := fun hcapacity =>
          h ⟨hwidth, htimeout, hcapacity⟩
        simp [hwidth, htimeout, hcapacity]
      · simp [hwidth, htimeout]
    · simp [hwidth]
  unfold write?
  rw [htables]
  rfl

theorem readText_toBytes (t : Text) : readText (.ok (Text.toBytes t)) = .ok t := by
  simp only [readText, bind, Except.bind, Text.ofBytes?_toBytes]
  rfl

/-- **What has been written is read**, as one of the documents that name some fields. -/
theorem load_write (h : s.write? = some document) :
    load (.ok (Text.toBytes document)) = .ok s := by
  by_cases hfits : s.Fits
  · obtain rfl := Option.some.inj (h.symm.trans (write?_of_fits hfits))
    have hdocument := Toml.document?_writeTables (Changes.orderly_tables hfits.changes_of)
    rw [load_of_namedBy (readText_toBytes _) hdocument (Changes.of s).namedBy_tables,
      Changes.over_of]
  · cases h.symm.trans (write?_of_not_fits hfits)

/-! ## Saving -/

theorem save_of_makeParents_error {e : ReadError} (h : Disk.makeParents path d = .error e d') :
    s.save path d = .error (.io e) d' :=
  Change.bind_of_error (Change.adaptExcept_of_error h _) _

/-- Without a document, the directories are made and nothing is written. -/
theorem save_of_write?_none (hmake : Disk.makeParents path d = .ok () d') (h : s.write? = none) :
    s.save path d = .error .serialize d' := by
  unfold save
  rw [Change.bind_of_ok (Change.adaptExcept_of_ok hmake _), h]
  rfl

theorem save_of_write?_some (hmake : Disk.makeParents path d = .ok () d')
    (h : s.write? = some document) :
    s.save path d = (Disk.write path (Text.toBytes document)).adaptExcept .io d' := by
  unfold save
  rw [Change.bind_of_ok (Change.adaptExcept_of_ok hmake _), h]

/-- **Saving that succeeds** leaves a file that is read as the settings, and every other file as it
was. -/
theorem load_of_save (h : s.save path d = .ok () d') : load (d'.read path) = .ok s ∧
    ∀ place ≠ d.target path, d'.file? place = d.file? place := by
  cases hmake : Disk.makeParents path d with
  | error e d₁ => cases (save_of_makeParents_error hmake).symm.trans h
  | ok _ d₁ =>
    cases hdocument : s.write? with
    | none => cases (save_of_write?_none hmake hdocument).symm.trans h
    | some document =>
      rw [save_of_write?_some hmake hdocument] at h
      cases hwrite : Disk.write path (Text.toBytes document) d₁ with
      | error e d₂ => cases (Change.adaptExcept_of_error hwrite _).symm.trans h
      | ok _ d₂ =>
        cases (Change.adaptExcept_of_ok hwrite _).symm.trans h
        obtain ⟨hread, hother⟩ := Disk.read_of_write hwrite
        have hfurnished := Disk.furnished_of_makeParents hmake
        refine ⟨?_, fun place hplace => ?_⟩
        · rw [hread]
          exact load_write hdocument
        · rw [← hfurnished.target] at hplace
          exact (hother place hplace).trans (hfurnished.file? place)

theorem exists_save_of_fits (hfits : s.Fits) (hpath : d.Writable path) :
    ∃ d', s.save path d = .ok () d' := by
  have hdocument := write?_of_fits hfits
  obtain ⟨d₁, d₂, hmake, hwrite⟩ :=
    Disk.write_of_writable hpath (Text.toBytes (Toml.writeTables (Changes.of s).tables))
  exact ⟨d₂, (save_of_write?_some hmake hdocument).trans (Change.adaptExcept_of_ok hwrite _)⟩

/-- **Settings that do not fit are not saved**, and no file changes. -/
theorem save_of_not_fits (hfits : ¬ s.Fits) (path : Text) (d : Disk) :
    ∃ e d', s.save path d = .error e d' ∧ d.Furnished d' ∧
      ((∃ d₁, Disk.makeParents path d = .ok () d₁) → e = .serialize) := by
  have hleft := Disk.furnished_makeParents path d
  cases hmake : Disk.makeParents path d with
  | error e d' =>
    rw [hmake] at hleft
    exact ⟨_, d', save_of_makeParents_error hmake, hleft, nofun⟩
  | ok _ d' =>
    rw [hmake] at hleft
    exact ⟨_, d', save_of_write?_none hmake (write?_of_not_fits hfits), hleft, fun _ => rfl⟩

/-- **Settings survive on a disk, and documents change the defaults.** Settings whose numbers fit 64
bits with a sign are written to every writable path. Settings that have been written are read again
from their path, and no other file has changed. Settings that do not fit are not written: no file
changes, and the error is that they have no document, provided that the directories of the path are
there or can be made, as they are where a file is read. A file whose document names some of the
fields, by values of their types and in tables of any kind, is read as the defaults with these
fields replaced. -/
theorem settings_survive (s : Settings) (path : Text) (d : Disk) :
    (s.Fits → d.Writable path → ∃ d', s.save path d = .ok () d') ∧
    (∀ d', s.save path d = .ok () d' → load (d'.read path) = .ok s ∧
      ∀ place ≠ d.target path, d'.file? place = d.file? place) ∧
    (¬ s.Fits → ∃ e d', s.save path d = .error e d' ∧ (d.Reachable path → e = .serialize) ∧
      (∀ place, d'.file? place = d.file? place) ∧
      ∀ bytes, d.read path = .ok bytes → e = .serialize ∧ d'.read path = .ok bytes) ∧
    ∀ (c : Changes) document entries, readText (d.read path) = .ok document →
      Toml.document? document = some entries → c.NamedBy entries →
      load (d.read path) = .ok (c.over {}) := by
  refine ⟨exists_save_of_fits, fun d' => load_of_save, fun hfits => ?_,
    fun c document entries => load_of_namedBy⟩
  obtain ⟨e, d', hsave, hfurnished, herror⟩ := save_of_not_fits hfits path d
  refine ⟨e, d', hsave, fun hreachable => ?_, hfurnished.file?, fun bytes hread => ?_⟩
  · obtain ⟨d₁, hmake, -⟩ := Disk.makeDirectories_of_passable false hreachable
    exact herror ⟨d₁, hmake⟩
  · exact ⟨herror ⟨d, Disk.makeParents_of_read hread⟩, hfurnished.read hread⟩

/-- Settings with line breaks, quotation marks and the largest number are saved to a directory that
is made for them. A number that is larger by one does not touch the file that is there. That file
names one field, and the others have their defaults. -/
theorem settings_survive_in_new_directory :
    let path := "nested/config.toml".toList
    let document := "[assist]\nargs = ['--fast']\n".toList
    let d : Disk :=
      { content? := fun place =>
          if place = [] ∨ place = ["nested".toList] then some .directory
          else if place = ["nested".toList, "config.toml".toList] then
            some (.file (Text.toBytes document))
          else none }
    let s : Settings :=
      { render := ⟨"\"\"\"'''\n\\".toList, Text.signedLimit - 1⟩
        assist := { command := some "a b".toList, args := ["\t".toList, "'".toList] } }
    let larger : Settings := { session := ⟨Text.signedLimit⟩ }
    (∃ d', s.save "new/config.toml".toList d = .ok () d' ∧
        load (d'.read "new/config.toml".toList) = .ok s) ∧
      (∃ d', larger.save path d = .error .serialize d' ∧
        d'.read path = .ok (Text.toBytes document)) ∧
      load (d.read path) = .ok { assist := { args := ["--fast".toList] } } := by
  intro path document d s larger
  refine ⟨?_, ?_, ?_⟩
  · obtain ⟨hsave, hload, -⟩ := settings_survive s "new/config.toml".toList d
    obtain ⟨d', hd'⟩ := hsave (by decide) (by decide)
    exact ⟨d', hd', (hload d' hd').1⟩
  · obtain ⟨e, d', hsave, -, -, hkept⟩ := (settings_survive larger path d).2.2.1 (by decide)
    obtain ⟨rfl, hread⟩ := hkept _ rfl
    exact ⟨d', hsave, hread⟩
  · refine (settings_survive s path d).2.2.2 { assist := { args := some ["--fast".toList] } }
      document [("assist".toList, .table .header [Toml.pair "args" (Toml.texts ["--fast".toList])])]
      rfl rfl ⟨.missing (by decide), .table .header ?_, .missing (by decide)⟩
    simp only [Give, Assist.Changes.fields, List.forall_mem_cons]
    exact ⟨rfl, rfl, rfl, rfl, rfl, nofun⟩

end EditScript.Settings
