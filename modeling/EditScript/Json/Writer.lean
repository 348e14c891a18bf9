import EditScript.Json.Basic

/-!
# Writing JSON

* `Json.compact`: a value on one line, without blanks.
* `Json.pretty`: a value with each part on a line of its own, indented by two spaces for each
  array or object around it.

A string is written with escape sequences for quotation marks, backslashes and control
characters, and with every other character as it is.
-/

namespace EditScript.Json

/-- A character as it is written in a string. -/
def escape (c : Char) : Text :=
  match c with
  | '"' => ['\\', '"']
  | '\\' => ['\\', '\\']
  | '\x08' => ['\\', 'b']
  | '\x0c' => ['\\', 'f']
  | '\n' => ['\\', 'n']
  | '\r' => ['\\', 'r']
  | '\t' => ['\\', 't']
  | c =>
    if c.toNat < 0x20 then
      ['\\', 'u', '0', '0', Nat.digitChar (c.toNat / 16), Nat.digitChar (c.toNat % 16)]
    else [c]

/-- A string with its quotation marks. -/
def quote (t : Text) : Text := '"' :: t.flatMap escape ++ ['"']

/-- A value without parts. What has no value is written as `null`. -/
def plain : Json → Text
  | bool true => "true".toList
  | bool false => "false".toList
  | nat n => Text.decimal n
  | string t => quote t
  | _ => "null".toList

mutual

/-- The value on one line. -/
def compact : Json → Text
  | array items => '[' :: compactItems items ++ [']']
  | object members => '\x7b' :: compactMembers members ++ ['\x7d']
  | v => plain v

/-- Several values on one line, with commas between them. -/
def compactItems : List Json → Text
  | [] => []
  | [v] => compact v
  | v :: rest => compact v ++ ',' :: compactItems rest

/-- Several members on one line, with commas between them. -/
def compactMembers : List (Option Text × Json) → Text
  | [] => []
  | [(key, v)] => quote (key.getD []) ++ ':' :: compact v
  | (key, v) :: rest => quote (key.getD []) ++ ':' :: compact v ++ ',' :: compactMembers rest

end

/-- The start of a line at a level. -/
def newLine (level : Nat) : Text := '\n' :: List.replicate (2 * level) ' '

mutual

/-- The value over several lines, its first line already begun. -/
def prettyAt (level : Nat) : Json → Text
  | array [] => "[]".toList
  | array (v :: rest) => '[' :: prettyItems (level + 1) (v :: rest) ++ newLine level ++ [']']
  | object [] => ['\x7b', '\x7d']
  | object (m :: rest) =>
    '\x7b' :: prettyMembers (level + 1) (m :: rest) ++ newLine level ++ ['\x7d']
  | v => plain v

/-- Several values, each on a line of its own. -/
def prettyItems (level : Nat) : List Json → Text
  | [] => []
  | [v] => newLine level ++ prettyAt level v
  | v :: rest => newLine level ++ prettyAt level v ++ ',' :: prettyItems level rest

/-- Several members, each on a line of its own. -/
def prettyMembers (level : Nat) : List (Option Text × Json) → Text
  | [] => []
  | [(key, v)] => newLine level ++ quote (key.getD []) ++ ": ".toList ++ prettyAt level v
  | (key, v) :: rest =>
    newLine level ++ quote (key.getD []) ++ ": ".toList ++ prettyAt level v ++
      ',' :: prettyMembers level rest

end

/-- The value over several lines. -/
def pretty (v : Json) : Text := prettyAt 0 v

end EditScript.Json
