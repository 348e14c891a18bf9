import EditScript.Files

/-!
# Disks

Files that are written and read again. A disk is said by what lies at each place, a place being the
names that lead to it from the root. What must not be changed is part of it, too.

* `Disk.enter`: from directory to directory along the parts of a path.
* `Disk.read`: the bytes of the file at a path.
* `Disk.makeParents`: makes the directories of a path that are missing.
* `Disk.write`: puts a file at a path, or other bytes into the one that is there.

A place below a file may hold something, but no path leads there.
-/

namespace EditScript

/-- What lies at a place. -/
inductive Disk.Entry where
  | directory
  | file (bytes : Bytes)
  deriving DecidableEq

/-- Directories and files. -/
structure Disk where
  /-- What lies at a place. -/
  content? : List Text → Option Disk.Entry
  /-- Why a place cannot be written, if it cannot. -/
  refusal? : List Text → Option ReadError := fun _ => none
  /-- Where a path starts that does not start from the root. -/
  home : List Text := []

namespace Disk

/-- What changes a disk and may fail. What it has done until then stays. -/
abbrev Change (α : Type) := EStateM ReadError Disk α

/-- Something lies where a directory is to be made. -/
def alreadyExists : ReadError := .other "File exists (os error 17)"

/-- The bytes of the file at a place. -/
def file? (d : Disk) (place : List Text) : Option Bytes :=
  match d.content? place with
  | some (.file bytes) => some bytes
  | _ => none

/-- Where a path starts. -/
def start (d : Disk) (path : Text) : List Text := if path.head? = some '/' then [] else d.home

/-- The place that a part of a path leads to. -/
def step (place : List Text) (part : Text) : List Text :=
  if part = ['.', '.'] then place.dropLast else place ++ [part]

/-- The parts of a path that lead to the directory where its last part is looked up. -/
def parents (path : Text) : List Text := (Folder.parts path).dropLast

/-- The name at the end of a path. A path that ends otherwise leads to a directory. -/
def lastName? (path : Text) : Option Text :=
  (path.splitOn '/').getLast?.filter fun p => p ≠ [] ∧ p ≠ ['.'] ∧ p ≠ ['.', '.']

/-- Follows the parts of a path from a directory to the next. -/
def enter (d : Disk) : List Text → List Text → Except ReadError (List Text)
  | place, [] => .ok place
  | place, part :: rest =>
    if part = ['.', '.'] then enter d place.dropLast rest
    else
      match d.content? (place ++ [part]) with
      | some .directory => enter d (place ++ [part]) rest
      | some (.file _) => .error .notDirectory
      | none => .error .notFound

/-- The bytes of the file at a path. -/
def read (d : Disk) : Files := fun path =>
  match lastName? path with
  | some name => do
    let place ← d.enter (d.start path) (parents path)
    match d.content? (place ++ [name]) with
    | some (.file bytes) => .ok bytes
    | some .directory => .error .isDirectory
    | none => .error .notFound
  | none =>
    if path = [] then .error .notFound
    else do
      let _ ← d.enter (d.start path) (Folder.parts path)
      .error .isDirectory

/-- The disk with an entry at a place. -/
def set (d : Disk) (place : List Text) (e : Entry) : Disk :=
  { d with content? := fun p => if p = place then some e else d.content? p }

/-- Puts an entry at a place, unless that is refused. -/
def put (place : List Text) (e : Entry) : Change Unit := fun d =>
  match d.refusal? place with
  | some refusal => .error refusal d
  | none => .ok () (d.set place e)

/-- Follows the parts of a path and makes the directories that are missing. A file in the way is
told apart by whether something has been made before. -/
def makeDirectories (made : Bool) : List Text → List Text → Change Unit
  | _, [] => return
  | place, part :: rest => do
    if part = ['.', '.'] then makeDirectories made place.dropLast rest
    else
      match (← get).content? (place ++ [part]) with
      | some .directory => makeDirectories made (place ++ [part]) rest
      | some (.file _) => throw (if made ∨ rest = [] then alreadyExists else .notDirectory)
      | none => do
        put (place ++ [part]) .directory
        makeDirectories true (place ++ [part]) rest

/-- Makes the directories of a path that are missing. -/
def makeParents (path : Text) : Change Unit := do
  makeDirectories false ((← get).start path) (parents path)

/-- Follows the parts of a path, as a change that changes nothing. -/
def entered (path : Text) (parts : List Text) : Change (List Text) := fun d =>
  match d.enter (d.start path) parts with
  | .ok place => .ok place d
  | .error e => .error e d

/-- Writes a file. -/
def write (path : Text) (bytes : Bytes) : Change Unit := do
  match lastName? path with
  | some name =>
    let place ← entered path (parents path)
    match (← get).content? (place ++ [name]) with
    | some .directory => throw .isDirectory
    | _ => put (place ++ [name]) (.file bytes)
  | none =>
    if path = [] then throw .notFound
    else
      let _ ← entered path (if path.getLast? = some '/' then parents path else Folder.parts path)
      throw .isDirectory

end Disk

end EditScript
