import EditScript.Text.Basic

/-!
# TOML values

A document is a table, and a table is a list of keys with their values. Each key is defined once;
the rest of the rules say which tables may still grow.

* `Toml.assign`: what a line `a.b.c = value` adds to the table it stands in.
* `Toml.openTable`, `Toml.openElement`: what a header `[a.b]` or `[[a.b]]` adds to the document.
* `Toml.within`: the table that a header has opened, and what becomes of the document if that
  table changes.
-/

namespace EditScript

/-- How a table came about. -/
inductive Toml.Origin where
  /-- Its own header. -/
  | header
  /-- The header of a table below it. -/
  | implied
  /-- A dotted key. -/
  | dotted
  /-- Braces. Such a table is complete. -/
  | inlined
  deriving DecidableEq

/-- A TOML value. -/
inductive Toml where
  | string (value : Text)
  | integer (value : Int)
  | boolean (value : Bool)
  /-- A float. No setting has a place for one. -/
  | float
  /-- A date, a time, or both. Where a table is expected, it is one without known keys. -/
  | moment
  | array (items : List Toml)
  | table (origin : Toml.Origin) (entries : List (Text × Toml))
  /-- The tables under a doubly bracketed header. -/
  | tables (elements : List (List (Text × Toml)))

namespace Toml

/-- The value of a key. -/
def find? (key : Text) (entries : List (Text × Toml)) : Option Toml :=
  (entries.find? fun e => e.1 = key).map Prod.snd

/-- The entries with another value for a key, or with one more key. -/
def put (key : Text) (value : Toml) (entries : List (Text × Toml)) : List (Text × Toml) :=
  if entries.any fun e => e.1 = key then
    entries.map fun e => if e.1 = key then (key, value) else e
  else entries ++ [(key, value)]

/-- The entries with one more key; nothing if the key is there already. -/
def define? (key : Text) (value : Toml) (entries : List (Text × Toml)) :
    Option (List (Text × Toml)) :=
  if (find? key entries).isSome then none else some (entries ++ [(key, value)])

/-- The tables with a change in the last of them. -/
def changeLast? (change : List (Text × Toml) → Option (List (Text × Toml)))
    (elements : List (List (Text × Toml))) : Option Toml := do
  let last ← elements.getLast?
  return .tables (elements.dropLast ++ [← change last])

/-- The entries with a change in the table at a path of headers. Tables on the way that are
missing are implied. -/
def within (change : List (Text × Toml) → Option (List (Text × Toml))) :
    List Text → List (Text × Toml) → Option (List (Text × Toml))
  | [], entries => change entries
  | key :: path, entries =>
    match find? key entries with
    | none => do return put key (.table .implied (← within change path [])) entries
    | some (.table .inlined _) => none
    | some (.table origin inner) => do
      return put key (.table origin (← within change path inner)) entries
    | some (.tables elements) => do
      return put key (← changeLast? (within change path) elements) entries
    | some _ => none

/-- The entries with a table opened by its header: a new one, or one that was only implied. -/
def openTable (key : Text) (entries : List (Text × Toml)) : Option (List (Text × Toml)) :=
  match find? key entries with
  | none => some (put key (.table .header []) entries)
  | some (.table .implied inner) => some (put key (.table .header inner) entries)
  | some _ => none

/-- The entries with one more table under a doubly bracketed header. -/
def openElement (key : Text) (entries : List (Text × Toml)) : Option (List (Text × Toml)) :=
  match find? key entries with
  | none => some (put key (.tables [[]]) entries)
  | some (.tables elements) => some (put key (.tables (elements ++ [[]])) entries)
  | some _ => none

/-- The entries with a value under a dotted key: the tables on the way, then the last key. The
table of the last key has to be one that dotted keys made. -/
def assign (value : Toml) (last : Text) :
    List Text → List (Text × Toml) → Option (List (Text × Toml))
  | [], entries => define? last value entries
  | [key], entries =>
    match find? key entries with
    | none => some (put key (.table .dotted [(last, value)]) entries)
    | some (.table .dotted inner) => do
      return put key (.table .dotted (← define? last value inner)) entries
    | some _ => none
  | key :: path, entries =>
    match find? key entries with
    | none => do return put key (.table .dotted (← assign value last path [])) entries
    | some (.table .dotted inner) => do
      return put key (.table .dotted (← assign value last path inner)) entries
    | some (.table .implied inner) => do
      return put key (.table .implied (← assign value last path inner)) entries
    | some (.tables elements) => do
      return put key (← changeLast? (assign value last path) elements) entries
    | some _ => none

end Toml

end EditScript
