import EditScript.Text.Utf8

/-!
# Files

What reading a file gives, and a folder of files as a value.

* `ReadError`: why a file cannot be read, in the words of the operating system.
* `Folder.read`: the bytes of the file at a path. Paths are resolved one part at a time, and
  every part but the last has to be a directory.
-/

namespace EditScript

/-- Why a file cannot be read as text. -/
inductive ReadError where
  | notFound
  | notDirectory
  | isDirectory
  | denied
  /-- The bytes are no UTF-8. -/
  | notText
  /-- Something else, in the words of the operating system. -/
  | other (message : String)
  deriving DecidableEq

/-- The error in the words of the operating system. -/
def ReadError.words : ReadError → String
  | notFound => "No such file or directory"
  | notDirectory => "Not a directory"
  | isDirectory => "Is a directory"
  | denied => "Permission denied"
  | notText => "stream did not contain valid UTF-8"
  | other message => message

/-- The number that the operating system gives the error. -/
def ReadError.number? : ReadError → Option Nat
  | notFound => some 2
  | notDirectory => some 20
  | isDirectory => some 21
  | denied => some 13
  | notText => none
  | other _ => none

/-- What the user reads about the error. -/
def ReadError.message (e : ReadError) : String :=
  match e.number? with
  | some n => s!"{e.words} (os error {n})"
  | none => e.words

/-- What reading the file at a path gives. -/
abbrev Files := Text → Except ReadError Bytes

/-- The text of a file whose bytes have been read. -/
def readText (bytes : Except ReadError Bytes) : Except ReadError Text := do
  match Text.ofBytes? (← bytes) with
  | some t => return t
  | none => throw .notText

/-- Files by the parts of their paths. -/
abbrev Folder := List (List Text × Bytes)

namespace Folder

/-- The parts of a path, without those that lead nowhere. -/
def parts (path : Text) : List Text := (path.splitOn '/').filter fun p => p ≠ [] ∧ p ≠ ['.']

/-- The folder of files with given paths. -/
def ofFiles (files : List (Text × Bytes)) : Folder := files.map fun f => (parts f.1, f.2)

/-- The bytes of the file with these parts. -/
def file? (folder : Folder) (path : List Text) : Option Bytes :=
  (folder.find? fun f => f.1 = path).map Prod.snd

/-- Files lie below the path, or it is the folder itself. -/
def isDirectory (folder : Folder) (path : List Text) : Bool :=
  path = [] || folder.any fun f => path.isPrefixOf f.1 && f.1 ≠ path

/-- Resolves the rest of a path from a directory. Above the folder there are only directories, and
nothing is found in them. -/
def resolve (folder : Folder) : List Text → List Text → Except ReadError (List Text)
  | here, [] => .ok here
  | here, part :: rest =>
    if part = ['.', '.'] then
      if here = [] ∧ rest.any (· ≠ ['.', '.']) then .error .notFound
      else resolve folder here.dropLast rest
    else
      let next := here ++ [part]
      if folder.isDirectory next then resolve folder next rest
      else if (folder.file? next).isSome then
        if rest = [] then .ok next else .error .notDirectory
      else .error .notFound

/-- The bytes of the file at a path. Paths from the root lead to the empty device, or nowhere. -/
def read (folder : Folder) : Files := fun path =>
  if path.head? = some '/' then
    if parts path = ["dev".toList, "null".toList] ∨ parts path = ["dev".toList, "stdin".toList] then
      .ok []
    else if parts path = [] then .error .isDirectory
    else .error .notFound
  else if path = [] then .error .notFound
  else
    match resolve folder [] (parts path) with
    | .error e => .error e
    | .ok found =>
      match folder.file? found with
      | some bytes => if path.getLast? = some '/' then .error .notDirectory else .ok bytes
      | none => .error .isDirectory

end Folder

end EditScript
