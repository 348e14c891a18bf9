import EditScript.Text.Basic

/-!
# JSON values

* `Json`: a value as it stands in a document, with its members in order. A number or a string
  that is well formed but stands for nothing is kept as `broken`, so that a reader may skip it
  where it does not need it.
* `Json.isStrict`: nothing in the value is broken, and it is not nested too deep.
* `Json.fields`: the values of the named fields of a record. A record is an object, or an array
  with the fields in order.
* `Json.lastWins`, `Json.sorted`: objects without repeated keys, and with their keys in order.
-/

namespace EditScript

/-- A JSON value. -/
inductive Json where
  | null
  | bool (value : Bool)
  /-- A number written with digits alone. -/
  | nat (value : Nat)
  /-- A number with a sign, a fraction or an exponent. No record has a place for one. -/
  | number
  | string (value : Text)
  /-- A string with half a surrogate pair, or a number beyond the range of doubles. -/
  | broken
  | array (items : List Json)
  /-- The members in order. A key that is a broken string is absent. -/
  | object (members : List (Option Text × Json))

namespace Json

/-- A member of an object that is written. -/
def member (key : String) (value : Json) : Option Text × Json := (some key.toList, value)

/-- A text that is written. -/
def ofString (s : String) : Json := .string s.toList

mutual

/-- How deep arrays and objects are nested. -/
def depth : Json → Nat
  | array items => itemsDepth items + 1
  | object members => membersDepth members + 1
  | _ => 0

/-- The depth of the deepest of several values. -/
def itemsDepth : List Json → Nat
  | [] => 0
  | v :: rest => max (depth v) (itemsDepth rest)

/-- The depth of the deepest of several members. -/
def membersDepth : List (Option Text × Json) → Nat
  | [] => 0
  | (_, v) :: rest => max (depth v) (membersDepth rest)

end

mutual

/-- No part of the value is broken. -/
def isWhole : Json → Bool
  | broken => false
  | array items => itemsWhole items
  | object members => membersWhole members
  | _ => true

/-- No part of several values is broken. -/
def itemsWhole : List Json → Bool
  | [] => true
  | v :: rest => isWhole v && itemsWhole rest

/-- No key and no value of several members is broken. -/
def membersWhole : List (Option Text × Json) → Bool
  | [] => true
  | (key, v) :: rest => key.isSome && isWhole v && membersWhole rest

end

/-- The deepest nesting that is read. -/
def maxDepth : Nat := 127

/-- The whole value can be read. -/
def isStrict (v : Json) : Bool := isWhole v && depth v ≤ maxDepth

/-- The last value under each key, at the place of the first one. -/
def lastMembers (members : List (Option Text × Json)) : List (Option Text × Json) :=
  members.foldl (fun seen entry =>
    if seen.any (·.1 = entry.1) then
      seen.map fun old => if old.1 = entry.1 then entry else old
    else seen ++ [entry]) []

mutual

/-- The value in which, of several members with one key, the last one counts. -/
def lastWins : Json → Json
  | array items => array (itemsLastWins items)
  | object members => object (lastMembers (membersLastWins members))
  | v => v

/-- `lastWins` of several values. -/
def itemsLastWins : List Json → List Json
  | [] => []
  | v :: rest => lastWins v :: itemsLastWins rest

/-- `lastWins` of the values of several members. -/
def membersLastWins : List (Option Text × Json) → List (Option Text × Json)
  | [] => []
  | (key, v) :: rest => (key, lastWins v) :: membersLastWins rest

end

/-- The order of texts by their scalar values. -/
def textLe (s t : Text) : Bool := !decide (t < s)

/-- The order of members by their keys. -/
def memberLe (a b : Option Text × Json) : Bool := textLe (a.1.getD []) (b.1.getD [])

mutual

/-- The value with the members of every object ordered by key. -/
def sorted : Json → Json
  | array items => array (itemsSorted items)
  | object members => object ((membersSorted members).mergeSort memberLe)
  | v => v

/-- `sorted` of several values. -/
def itemsSorted : List Json → List Json
  | [] => []
  | v :: rest => sorted v :: itemsSorted rest

/-- `sorted` of the values of several members. -/
def membersSorted : List (Option Text × Json) → List (Option Text × Json)
  | [] => []
  | (key, v) :: rest => (key, sorted v) :: membersSorted rest

end

/-- The value of the first member with a key. -/
def member? (members : List (Option Text × Json)) (key : Text) : Option Json :=
  (members.find? fun entry => entry.1 = some key).map Prod.snd

/-- The keys that can be read, and none of the named ones twice. -/
def keysFit (names : List Text) (members : List (Option Text × Json)) : Bool :=
  members.all (·.1.isSome) &&
    names.all fun name => members.countP (fun entry => entry.1 = some name) ≤ 1

/-- The values of the named fields of a record, each if it is there. An object may have other
members; an array has no more items than there are names. -/
def fields (names : List String) : Json → Option (List (Option Json))
  | object members =>
    if keysFit (names.map String.toList) members then
      some (names.map fun name => member? members name.toList)
    else none
  | array items =>
    if items.length ≤ names.length then
      some (items.map some ++ List.replicate (names.length - items.length) none)
    else none
  | _ => none

/-- A 64-bit offset or size. -/
def offset? : Json → Option Nat
  | nat n => if n < Text.offsetLimit then some n else none
  | _ => none

/-- A text. -/
def text? : Json → Option Text
  | string t => some t
  | _ => none

/-- A truth value. -/
def bool? : Json → Option Bool
  | bool b => some b
  | _ => none

/-- A list of values of one kind. -/
def list? {α : Type} (item? : Json → Option α) : Json → Option (List α)
  | array items => items.mapM item?
  | _ => none

/-- A value that may be `null` instead. -/
def orNull? {α : Type} (item? : Json → Option α) : Json → Option (Option α)
  | null => some none
  | v => (item? v).map some

end Json

end EditScript
