import EditScript.Json.Token

/-!
# Reading JSON

A document is read token by token, with a stack of the arrays and objects that are open.

* `Json.read`: the value at the start of a document, and whether anything follows it.
* `Json.parse?`: the value of a document that holds nothing else.
-/

namespace EditScript.Json

/-- An array or an object that is still open, with its parts the last first. -/
inductive Frame where
  | array (reversed : List Json)
  /-- An object, with the key whose value is being read. -/
  | object (reversed : List (Option Text × Json)) (key : Option Text)

/-- What may come next. -/
inductive Expect where
  /-- A value. -/
  | value
  /-- A value, or the end of an empty array. -/
  | firstItem
  /-- A key, or the end of an empty object. -/
  | firstKey
  /-- A key. -/
  | key
  /-- A colon. -/
  | colon
  /-- A comma, or the end of what is open. -/
  | next

/-- How far the reading has come. -/
inductive Progress where
  /-- Something is open, or nothing has been read. -/
  | reading (frames : List Frame) (expect : Expect)
  /-- A value has been read; `more` if something followed it. -/
  | done (value : Json) (more : Bool)
  /-- The document is malformed. -/
  | failed

namespace Progress

/-- Goes on after a whole value. -/
def close (v : Json) : List Frame → Progress
  | [] => .done v false
  | .array items :: frames => .reading (.array (v :: items) :: frames) .next
  | .object members key :: frames => .reading (.object ((key, v) :: members) key :: frames) .next

/-- Goes on with a token where a value may begin. -/
def value (frames : List Frame) : Token → Progress
  | .scalar v => close v frames
  | .text (some t) => close (.string t) frames
  | .text none => close .broken frames
  | .mark '[' => .reading (.array [] :: frames) .firstItem
  | .mark '\x7b' => .reading (.object [] none :: frames) .firstKey
  | _ => .failed

/-- Goes on with a token where a key may stand. -/
def key (frames : List Frame) (token : Token) : Progress :=
  match token, frames with
  | .text k, .object members _ :: rest => .reading (.object members k :: rest) .colon
  | _, _ => .failed

/-- Goes on with a token. -/
def feed (p : Progress) (token : Token) : Progress :=
  match p with
  | .failed => .failed
  | .done v _ => .done v true
  | .reading frames .value => value frames token
  | .reading frames .firstItem =>
    match token, frames with
    | .mark ']', .array items :: rest => close (.array items.reverse) rest
    | _, _ => value frames token
  | .reading frames .firstKey =>
    match token, frames with
    | .mark '\x7d', .object members _ :: rest => close (.object members.reverse) rest
    | _, _ => key frames token
  | .reading frames .key => key frames token
  | .reading frames .colon =>
    match token with
    | .mark ':' => .reading frames .value
    | _ => .failed
  | .reading frames .next =>
    match token, frames with
    | .mark ',', .array _ :: _ => .reading frames .value
    | .mark ',', .object _ _ :: _ => .reading frames .key
    | .mark ']', .array items :: rest => close (.array items.reverse) rest
    | .mark '\x7d', .object members _ :: rest => close (.object members.reverse) rest
    | _, _ => .failed

end Progress

/-- The value that a document starts with, and whether anything follows it; nothing if the
document does not start with a value. -/
def read (document : Text) : Option (Json × Bool) :=
  match (Token.ofDocument document).foldl Progress.feed (.reading [] .value) with
  | .done v more => some (v, more)
  | _ => none

/-- The value of a document that holds one value and nothing else. -/
def parse? (document : Text) : Option Json :=
  match read document with
  | some (v, false) => some v
  | _ => none

end EditScript.Json
