import Mathlib.Data.List.Basic
import EditScript.Disk
import EditScript.Proofs.Change

/-!
# What is written is read

A file that has been written is read from the same path, and nothing else has changed but for
directories that were missing. Where a file is in the way, or where a change is refused, no file
changes.

* `Disk.enter_of_kept`: a path leads on as long as its directories are kept.
* `Disk.Furnished`: a disk with more directories, and otherwise the same.
* `Disk.Reachable`, `Disk.Writable`: the directories of a path are there or can be made, and a file
  can be put there.
* `Disk.furnished_makeDirectories`, `Disk.makeDirectories_of_passable`: making directories, by
  induction on the parts of the path.
* `Disk.read_of_write`: reading what has been written.
* `Disk.write_of_writable`: a path that is writable stays so until the file is written.
-/

namespace EditScript.Disk

open Change (left)

variable {d d' : Disk} {place last : List Text} {part name path : Text} {parts rest : List Text}
  {made : Bool} {bytes : Bytes} {e : Entry}

/-! ## Following a path -/

theorem enter_directory (hpart : part ≠ ['.', '.'])
    (h : d.content? (place ++ [part]) = some .directory) (rest : List Text) :
    d.enter place (part :: rest) = d.enter (place ++ [part]) rest := by
  rw [enter, if_neg hpart, h]

theorem directory_of_enter (hpart : part ≠ ['.', '.'])
    (h : d.enter place (part :: rest) = .ok last) :
    d.content? (place ++ [part]) = some .directory := by
  rw [enter, if_neg hpart] at h
  split at h
  · assumption
  · cases h
  · cases h

/-- **A path leads on** as long as its directories are kept. -/
theorem enter_of_kept
    (hkept : ∀ place, d.content? place = some .directory → d'.content? place = some .directory)
    (h : d.enter place parts = .ok last) : d'.enter place parts = .ok last := by
  induction parts generalizing place with
  | nil => exact h
  | cons part rest ih =>
    by_cases hpart : part = ['.', '.']
    · subst hpart
      exact ih h
    · have hdir := directory_of_enter hpart h
      rw [enter_directory hpart hdir] at h
      rw [enter_directory hpart (hkept _ hdir)]
      exact ih h

/-- Where a path leads is known from its parts. -/
theorem eq_foldl_of_enter (h : d.enter place parts = .ok last) : last = parts.foldl step place := by
  induction parts generalizing place with
  | nil => exact (Except.ok.inj h).symm
  | cons part rest ih =>
    by_cases hpart : part = ['.', '.']
    · subst hpart
      exact ih h
    · rw [enter_directory hpart (directory_of_enter hpart h)] at h
      have hstep : step place part = place ++ [part] := if_neg hpart
      rw [List.foldl_cons, hstep]
      exact ih h

/-! ## More directories -/

/-- The disk has more directories, and is otherwise the same. -/
structure Furnished (d d' : Disk) : Prop where
  kept : ∀ place e, d.content? place = some e → d'.content? place = some e
  file? : ∀ place, d'.file? place = d.file? place
  refusal? : d'.refusal? = d.refusal?
  home : d'.home = d.home

theorem Furnished.refl (d : Disk) : Furnished d d := ⟨fun _ _ h => h, fun _ => rfl, rfl, rfl⟩

theorem Furnished.trans {d₁ d₂ d₃ : Disk} (h : Furnished d₁ d₂) (h' : Furnished d₂ d₃) :
    Furnished d₁ d₃ where
  kept place e he := h'.kept place e (h.kept place e he)
  file? place := (h'.file? place).trans (h.file? place)
  refusal? := h'.refusal?.trans h.refusal?
  home := h'.home.trans h.home

theorem Furnished.start (h : Furnished d d') (path : Text) : d'.start path = d.start path := by
  unfold Disk.start
  rw [h.home]

/-- **What reading gives**: the directories of the path are there, and the file in the last one. -/
theorem read_eq_ok_iff : d.read path = .ok bytes ↔ ∃ name place, lastName? path = some name ∧
    d.enter (d.start path) (parents path) = .ok place ∧
    d.file? (place ++ [name]) = some bytes := by
  unfold read
  constructor
  · intro h
    split at h
    · rename_i name hname
      cases hplace : d.enter (d.start path) (parents path) with
      | error e =>
        rw [hplace] at h
        cases h
      | ok place =>
        rw [hplace] at h
        refine ⟨name, place, hname, rfl, ?_⟩
        unfold file?
        dsimp only [bind, Except.bind] at h
        split at h <;> simp_all
    · split at h
      · cases h
      · cases hplace : d.enter (d.start path) (Folder.parts path) <;> rw [hplace] at h <;> cases h
  · rintro ⟨name, place, hname, hplace, hfile⟩
    rw [hname]
    simp only [hplace, bind, Except.bind]
    unfold file? at hfile
    split at hfile
    · rename_i hentry
      rw [hentry]
      exact congrArg _ (Option.some.inj hfile)
    · cases hfile

/-- What could be read is read as before. -/
theorem Furnished.read (h : Furnished d d') (hread : d.read path = .ok bytes) :
    d'.read path = .ok bytes := by
  obtain ⟨name, place, hname, hplace, hfile⟩ := read_eq_ok_iff.1 hread
  refine read_eq_ok_iff.2 ⟨name, place, hname, ?_, (h.file? _).trans hfile⟩
  rw [h.start]
  exact enter_of_kept (fun place => h.kept place .directory) hplace

/-! ## One entry -/

@[simp] theorem set_content? (d : Disk) (place : List Text) (e : Entry) (p : List Text) :
    (d.set place e).content? p = if p = place then some e else d.content? p := rfl

theorem file?_set (d : Disk) (place : List Text) (bytes : Bytes) (p : List Text) :
    (d.set place (.file bytes)).file? p = if p = place then some bytes else d.file? p := by
  unfold file?
  by_cases hp : p = place <;> simp [hp]

/-- A new directory furnishes the disk. -/
theorem furnished_set (h : d.content? place = none) : Furnished d (d.set place .directory) where
  kept p e he := by
    have hp : p ≠ place := by
      rintro rfl
      rw [h] at he
      cases he
    rw [set_content?, if_neg hp, he]
  file? p := by
    unfold file?
    by_cases hp : p = place
    · subst hp
      simp [h]
    · simp [hp]
  refusal? := rfl
  home := rfl

theorem put_of_allowed (h : d.refusal? place = none) (e : Entry) :
    put place e d = .ok () (d.set place e) := by
  unfold put
  rw [h]

theorem put_of_refused {refusal : ReadError} (h : d.refusal? place = some refusal) (e : Entry) :
    put place e d = .error refusal d := by
  unfold put
  rw [h]

/-! ## Making directories -/

theorem makeDirectories_directory (hpart : part ≠ ['.', '.'])
    (h : d.content? (place ++ [part]) = some .directory) (made : Bool) (rest : List Text) :
    makeDirectories made place (part :: rest) d =
      makeDirectories made (place ++ [part]) rest d := by
  rw [makeDirectories, if_neg hpart, Change.bind_get, h]

theorem makeDirectories_file (hpart : part ≠ ['.', '.'])
    (h : d.content? (place ++ [part]) = some (.file bytes)) (made : Bool) (rest : List Text) :
    makeDirectories made place (part :: rest) d =
      .error (if made ∨ rest = [] then alreadyExists else .notDirectory) d := by
  rw [makeDirectories, if_neg hpart, Change.bind_get, h]
  rfl

theorem makeDirectories_missing (hpart : part ≠ ['.', '.'])
    (h : d.content? (place ++ [part]) = none) (made : Bool) (rest : List Text) :
    makeDirectories made place (part :: rest) d =
      (put (place ++ [part]) .directory >>= fun _ =>
        makeDirectories true (place ++ [part]) rest) d := by
  rw [makeDirectories, if_neg hpart, Change.bind_get, h]

/-- **Making directories** does nothing else, whether it succeeds or not. -/
theorem furnished_makeDirectories (made : Bool) (place parts : List Text) (d : Disk) :
    Furnished d (left (makeDirectories made place parts d)) := by
  induction parts generalizing made place d with
  | nil => exact .refl d
  | cons part rest ih =>
    by_cases hpart : part = ['.', '.']
    · subst hpart
      exact ih made place.dropLast d
    · cases hentry : d.content? (place ++ [part]) with
      | none =>
        rw [makeDirectories_missing hpart hentry]
        cases hrefusal : d.refusal? (place ++ [part]) with
        | none =>
          rw [Change.bind_of_ok (put_of_allowed hrefusal _)]
          exact (furnished_set hentry).trans (ih true (place ++ [part]) _)
        | some refusal =>
          rw [Change.bind_of_error (put_of_refused hrefusal _)]
          exact .refl d
      | some e =>
        cases e with
        | directory =>
          rw [makeDirectories_directory hpart hentry]
          exact ih made (place ++ [part]) d
        | file bytes =>
          rw [makeDirectories_file hpart hentry]
          exact .refl d

theorem furnished_of_ok (h : makeDirectories made place parts d = .ok () d') : Furnished d d' := by
  have hleft := furnished_makeDirectories made place parts d
  rwa [h] at hleft

/-- A file cannot be read where a directory is to be made, and a missing directory may be made. -/
def Passable (d : Disk) (place : List Text) : Prop :=
  d.file? place = none ∧ (d.content? place = none → d.refusal? place = none)

theorem Passable.set (h : d.Passable place) {p : List Text} (hp : d.content? p = none) :
    (d.set p .directory).Passable place := by
  refine ⟨((furnished_set hp).file? place).trans h.1, fun hentry => h.2 ?_⟩
  rw [set_content?] at hentry
  split at hentry
  · cases hentry
  · exact hentry

/-- **Directories are made** along passable places. Then the path leads through them, and they are
the only places where something is new. -/
theorem makeDirectories_of_passable (made : Bool)
    (h : ∀ p ∈ parts.scanl step place, d.Passable p) :
    ∃ d', makeDirectories made place parts d = .ok () d' ∧
      d'.enter place parts = .ok (parts.foldl step place) ∧
      ∀ p ∉ parts.scanl step place, d'.content? p = d.content? p := by
  induction parts generalizing made place d with
  | nil => exact ⟨d, rfl, rfl, fun _ _ => rfl⟩
  | cons part rest ih =>
    rw [List.scanl_cons] at h ⊢
    obtain ⟨-, hrest⟩ := List.forall_mem_cons.1 h
    by_cases hpart : part = ['.', '.']
    · subst hpart
      obtain ⟨d', hmake, henter, hnew⟩ := ih made hrest
      exact ⟨d', hmake, henter, fun p hp => hnew p fun hmem => hp (List.mem_cons_of_mem _ hmem)⟩
    · have hstep : step place part = place ++ [part] := if_neg hpart
      rw [List.foldl_cons]
      rw [hstep] at hrest ⊢
      have hnext : place ++ [part] ∈ rest.scanl step (place ++ [part]) := by
        cases rest <;> simp
      cases hentry : d.content? (place ++ [part]) with
      | none =>
        let d₁ := d.set (place ++ [part]) .directory
        have hput := put_of_allowed ((hrest _ hnext).2 hentry) .directory
        obtain ⟨d', hmake, henter, hnew⟩ := ih true fun p hp => (hrest p hp).set hentry
        refine ⟨d', ?_, ?_, fun p hp => ?_⟩
        · rw [makeDirectories_missing hpart hentry, Change.bind_of_ok hput, hmake]
        · have hkept := (furnished_of_ok hmake).kept _ .directory (if_pos rfl)
          rw [enter_directory hpart hkept, henter]
        · rw [List.mem_cons, not_or] at hp
          have hne : p ≠ place ++ [part] := by
            rintro rfl
            exact hp.2 hnext
          rw [hnew p hp.2, set_content?, if_neg hne]
      | some e =>
        cases e with
        | directory =>
          obtain ⟨d', hmake, henter, hnew⟩ := ih made hrest
          refine ⟨d', ?_, ?_, fun p hp => hnew p fun hmem => hp (List.mem_cons_of_mem _ hmem)⟩
          · rw [makeDirectories_directory hpart hentry, hmake]
          · rw [enter_directory hpart ((furnished_of_ok hmake).kept _ _ hentry), henter]
        | file bytes =>
          have hfile : d.file? (place ++ [part]) = some bytes := by
            unfold file?
            rw [hentry]
          cases hfile.symm.trans (hrest _ hnext).1

/-- Directories that are there need not be made. -/
theorem makeDirectories_of_enter (made : Bool) (h : d.enter place parts = .ok last) :
    makeDirectories made place parts d = .ok () d := by
  induction parts generalizing place with
  | nil => rfl
  | cons part rest ih =>
    by_cases hpart : part = ['.', '.']
    · subst hpart
      exact ih h
    · have hdir := directory_of_enter hpart h
      rw [enter_directory hpart hdir] at h
      rw [makeDirectories_directory hpart hdir]
      exact ih h

/-! ## Paths -/

/-- The places that the directories of a path are at. -/
def way (d : Disk) (path : Text) : List (List Text) := (parents path).scanl step (d.start path)

/-- The place that the last part of a path names. -/
def target (d : Disk) (path : Text) : List Text :=
  (parents path).foldl step (d.start path) ++ (lastName? path).toList

/-- The directories of a path are there or can be made. -/
def Reachable (d : Disk) (path : Text) : Prop := ∀ place ∈ d.way path, d.Passable place

/-- A file can be put at the path. -/
structure Writable (d : Disk) (path : Text) : Prop where
  /-- The path ends with a name. -/
  named : (lastName? path).isSome
  reachable : d.Reachable path
  /-- The path does not lead through the place itself. -/
  apart : d.target path ∉ d.way path
  free : d.content? (d.target path) ≠ some .directory
  allowed : d.refusal? (d.target path) = none

instance (d : Disk) (place : List Text) : Decidable (d.Passable place) :=
  inferInstanceAs (Decidable (d.file? place = none ∧ (d.content? place = none → _)))

instance (d : Disk) (path : Text) : Decidable (d.Reachable path) :=
  inferInstanceAs (Decidable (∀ place ∈ d.way path, d.Passable place))

instance (d : Disk) (path : Text) : Decidable (d.Writable path) :=
  decidable_of_iff ((lastName? path).isSome ∧ d.Reachable path ∧ d.target path ∉ d.way path ∧
      d.content? (d.target path) ≠ some .directory ∧ d.refusal? (d.target path) = none)
    ⟨fun ⟨hn, hr, ha, hf, hw⟩ => ⟨hn, hr, ha, hf, hw⟩,
      fun h => ⟨h.named, h.reachable, h.apart, h.free, h.allowed⟩⟩

theorem furnished_makeParents (path : Text) (d : Disk) : Furnished d (left (makeParents path d)) :=
  furnished_makeDirectories false (d.start path) (parents path) d

theorem furnished_of_makeParents (h : makeParents path d = .ok () d') : Furnished d d' :=
  furnished_of_ok h

theorem Furnished.target (h : Furnished d d') (path : Text) : d'.target path = d.target path := by
  unfold Disk.target
  rw [h.start]

/-- A file at the path lies in directories that are there. -/
theorem makeParents_of_read (h : d.read path = .ok bytes) : makeParents path d = .ok () d := by
  obtain ⟨-, place, -, hplace, -⟩ := read_eq_ok_iff.1 h
  exact makeDirectories_of_enter false hplace

theorem entered_of_ok (h : d.enter (d.start path) parts = .ok place) :
    entered path parts d = .ok place d := by
  unfold entered
  rw [h]

theorem entered_of_error {e : ReadError} (h : d.enter (d.start path) parts = .error e) :
    entered path parts d = .error e d := by
  unfold entered
  rw [h]

theorem write_of_enter_error {e : ReadError} (hname : lastName? path = some name)
    (h : d.enter (d.start path) (parents path) = .error e) :
    write path bytes d = .error e d := by
  unfold write
  rw [hname]
  exact Change.bind_of_error (entered_of_error h) _

/-- A file is put into the directory that the path leads to. -/
theorem write_of_enter (hname : lastName? path = some name)
    (h : d.enter (d.start path) (parents path) = .ok place) :
    write path bytes d =
      if d.content? (place ++ [name]) = some .directory then .error .isDirectory d
      else put (place ++ [name]) (.file bytes) d := by
  unfold write
  rw [hname]
  refine (Change.bind_of_ok (entered_of_ok h) _).trans ((Change.bind_get _ d).trans ?_)
  cases d.content? (place ++ [name]) with
  | none => rfl
  | some e => cases e <;> rfl

/-- Where no name ends the path, there is no file. -/
theorem write_of_unnamed (hname : lastName? path = none) (bytes : Bytes) (d : Disk) :
    ∃ e, write path bytes d = .error e d := by
  unfold write
  rw [hname]
  dsimp only
  split
  · exact ⟨.notFound, rfl⟩
  · generalize (if path.getLast? = some '/' then parents path else Folder.parts path) = parts
    cases hplace : d.enter (d.start path) parts with
    | error e => exact ⟨e, Change.bind_of_error (entered_of_error hplace) _⟩
    | ok place => exact ⟨.isDirectory, Change.bind_of_ok (entered_of_ok hplace) _⟩

/-- **What writing does**: it follows the directories of the path, and puts the file into the last
one unless a directory is in the way. -/
theorem write_eq_ok_iff : write path bytes d = .ok () d' ↔ ∃ name place,
    lastName? path = some name ∧ d.enter (d.start path) (parents path) = .ok place ∧
    d.content? (place ++ [name]) ≠ some .directory ∧ d.refusal? (place ++ [name]) = none ∧
    d' = d.set (place ++ [name]) (.file bytes) := by
  constructor
  · intro h
    cases hname : lastName? path with
    | none =>
      obtain ⟨e, he⟩ := write_of_unnamed hname bytes d
      cases he.symm.trans h
    | some name =>
      cases hplace : d.enter (d.start path) (parents path) with
      | error e => cases (write_of_enter_error hname hplace).symm.trans h
      | ok place =>
        rw [write_of_enter hname hplace] at h
        split at h
        · cases h
        · rename_i hentry
          cases hrefusal : d.refusal? (place ++ [name]) with
          | some refusal =>
            rw [put_of_refused hrefusal] at h
            cases h
          | none =>
            rw [put_of_allowed hrefusal] at h
            injection h with _ heq
            exact ⟨name, place, rfl, rfl, hentry, hrefusal, heq.symm⟩
  · rintro ⟨name, place, hname, hplace, hentry, hrefusal, rfl⟩
    rw [write_of_enter hname hplace, if_neg hentry, put_of_allowed hrefusal]

theorem target_of_enter (hname : lastName? path = some name)
    (h : d.enter (d.start path) (parents path) = .ok place) :
    d.target path = place ++ [name] := by
  rw [target, hname, ← eq_foldl_of_enter h]
  rfl

/-- **What has been written is read** from the same path, and every other file is as before. -/
theorem read_of_write (h : write path bytes d = .ok () d') :
    d'.read path = .ok bytes ∧ ∀ place ≠ d.target path, d'.file? place = d.file? place := by
  obtain ⟨name, place, hname, hplace, hentry, -, rfl⟩ := write_eq_ok_iff.1 h
  constructor
  · have hkept (p : List Text) (hp : d.content? p = some .directory) :
        (d.set (place ++ [name]) (.file bytes)).content? p = some .directory := by
      have hne : p ≠ place ++ [name] := by
        rintro rfl
        exact hentry hp
      rw [set_content?, if_neg hne, hp]
    refine read_eq_ok_iff.2 ⟨name, place, hname, enter_of_kept hkept hplace, ?_⟩
    rw [file?_set, if_pos rfl]
  · intro p hp
    rw [target_of_enter hname hplace] at hp
    rw [file?_set, if_neg hp]

/-- **A writable path** can be written when its directories have been made. -/
theorem write_of_writable (h : d.Writable path) (bytes : Bytes) :
    ∃ d₁ d₂, makeParents path d = .ok () d₁ ∧ write path bytes d₁ = .ok () d₂ := by
  obtain ⟨d₁, hmake, henter, hnew⟩ := makeDirectories_of_passable false h.reachable
  obtain ⟨name, hname⟩ := Option.isSome_iff_exists.1 h.named
  have hfurnished := furnished_of_ok hmake
  have hstart : d₁.enter (d₁.start path) (parents path) =
      .ok ((parents path).foldl step (d.start path)) := by
    rw [hfurnished.start]
    exact henter
  have htarget : d.target path = (parents path).foldl step (d.start path) ++ [name] := by
    rw [target, hname]
    rfl
  -- The last part of the path names a place that no directory has been made at.
  have hfree : d₁.content? (d.target path) ≠ some .directory :=
    (hnew _ h.apart).symm ▸ h.free
  have hallowed : d₁.refusal? (d.target path) = none := hfurnished.refusal?.symm ▸ h.allowed
  rw [htarget] at hfree hallowed
  exact ⟨d₁, _, hmake, write_eq_ok_iff.2 ⟨name, _, hname, hstart, hfree, hallowed, rfl⟩⟩

end EditScript.Disk
