import EditScript.Text.Basic

/-!
# Queue

The command lines that wait to be run, or have been. A line keeps its slot for ever and is found
by its id.

* `LineId`: either made here, and then numbered, or a UUID that a document brought along.
* `Queue.extend`: appends lines under new ids.
* `Queue.edit`, `Queue.replace`: give a slot a new text, under the old id or under a new one, and
  tell whether there is such a slot. In both cases the line is pending again.
* `Queue.mark`: notes that lines have been run. Of several lines with one id it means the first.
-/

namespace EditScript

/-- What a line is known by. -/
inductive LineId where
  /-- The id of the line that was made as number `serial`, counted from zero. -/
  | made (serial : Nat)
  /-- A 128-bit id from a document. -/
  | uuid (value : BitVec 128)
  deriving DecidableEq

/-- The `length` lowest hexadecimal digits of a number, with leading zeros. -/
def Text.hexDigits : Nat → Nat → Text
  | 0, _ => []
  | length + 1, n => hexDigits length (n / 16) ++ [Nat.digitChar (n % 16)]

/-- A text cut into pieces of given lengths. -/
def Text.cut : List Nat → Text → List Text
  | [], _ => []
  | length :: more, t => t.take length :: cut more (t.drop length)

/-- The numbers of digits between the hyphens of a UUID. -/
def LineId.groups : List Nat := [8, 4, 4, 4, 12]

/-- The hyphenated form of a UUID. -/
def LineId.hyphenated (value : BitVec 128) : Text :=
  ['-'].intercalate (Text.cut groups (Text.hexDigits 32 value.toNat))

/-- The id as the user reads it. -/
def LineId.display : LineId → String
  | made serial => s!"L{serial}"
  | uuid value => String.ofList (hyphenated value)

/-- A queued line. It is parsed anew whenever it is run. -/
structure Line where
  /-- What the line is known by. -/
  id : LineId
  /-- The line as it was typed. -/
  text : Text
  /-- The line has been run since its text was set. -/
  executed : Bool
  deriving DecidableEq

/-- The pending line that is made as number `serial`. -/
def Line.fresh (serial : Nat) (text : Text) : Line := ⟨.made serial, text, false⟩

/-- Lines in the order they are run in. -/
structure Queue where
  /-- All lines, executed or not. -/
  lines : List Line
  deriving DecidableEq

namespace Queue

/-- The queue without lines. -/
def empty : Queue := ⟨[]⟩

/-- The number of lines. -/
def length (q : Queue) : Nat := q.lines.length

/-- The lines that have not been run, in order. -/
def pending (q : Queue) : List Line := q.lines.filter fun l => !l.executed

/-- The first line with an id. -/
def find? (q : Queue) (id : LineId) : Option Line := q.lines.find? fun l => l.id = id

/-- The queue with its first line of an id changed; the same queue if there is none. -/
def update (q : Queue) (id : LineId) (change : Line → Line) : Queue :=
  ⟨q.lines.modify (q.lines.findIdx fun l => l.id = id) change⟩

/-- The queue with one more line, made as number `serial`. -/
def push (q : Queue) (serial : Nat) (text : Text) : Queue :=
  ⟨q.lines ++ [Line.fresh serial text]⟩

/-- New lines for texts, numbered from `serial` on. -/
def freshLines (serial : Nat) (texts : List Text) : List Line :=
  (texts.zipIdx serial).map fun entry => Line.fresh entry.2 entry.1

/-- The queue with one more line for each text, numbered from `serial` on. -/
def extend (q : Queue) (serial : Nat) (texts : List Text) : Queue :=
  ⟨q.lines ++ freshLines serial texts⟩

/-- Tells whether there is a line, and gives the queue with another text in it. The line is pending
again. -/
def edit (q : Queue) (id : LineId) (text : Text) : Bool × Queue :=
  ((q.find? id).isSome, q.update id fun l => { l with text := text, executed := false })

/-- The queue with a new line, made as number `serial`, in the slot of another, and the new id; none
if there is no such slot. -/
def replace (q : Queue) (id : LineId) (serial : Nat) (text : Text) : Option LineId × Queue :=
  ((q.find? id).map fun _ => .made serial, q.update id fun _ => Line.fresh serial text)

/-- The queue with lines noted as run, one id after the other. -/
def mark (q : Queue) (ids : List LineId) : Queue :=
  ids.foldl (fun q id => q.update id fun l => { l with executed := true }) q

end Queue

end EditScript
