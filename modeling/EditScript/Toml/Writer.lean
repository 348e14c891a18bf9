import EditScript.Toml.Basic

/-!
# Writing TOML

* `Toml.Quoting`: the five ways to write a string. `Toml.quoting` takes the first one in which
  nothing has to be escaped.
* `Toml.writeTables`: a document of tables with plain values.

A string over several lines is written with a line break after its first three marks, so that
its own first line starts at the margin.
-/

namespace EditScript.Toml

/-- A way to write a string. -/
inductive Quoting where
  /-- Between quotation marks. -/
  | basic
  /-- Between apostrophes. -/
  | literal
  /-- Between three quotation marks. -/
  | longBasic
  /-- Between three apostrophes. -/
  | longLiteral
  deriving DecidableEq

/-- The character is a control character that only an escape sequence can stand for. -/
def isControl (c : Char) : Bool :=
  (c.toNat < 0x20 && c ≠ '\t' && c ≠ '\n') || c.toNat == 0x7F

/-- The mark occurs three times in a row. -/
def hasTriple (mark : Char) : Text → Bool
  | a :: b :: c :: rest =>
    (a == mark && b == mark && c == mark) || hasTriple mark (b :: c :: rest)
  | _ => false

/-- The way in which a string is written: the first one that needs no escape sequence, and
otherwise between quotation marks. -/
def quoting (t : Text) : Quoting :=
  let control := t.any isControl
  let broken := t.contains '\n'
  if !control && !broken && !t.contains '\\' && !t.contains '"' then .basic
  else if !control && !broken && !t.contains '\'' then .literal
  else if !control && !t.contains '\\' && !hasTriple '"' t then .longBasic
  else if !control && !hasTriple '\'' t then .longLiteral
  else if broken then .longBasic
  else .basic

/-- A control character as four hexadecimal digits. -/
def codeOf (c : Char) : Text :=
  ['\\', 'u', '0', '0', (Nat.digitChar (c.toNat / 16)).toUpper,
    (Nat.digitChar (c.toNat % 16)).toUpper]

/-- The characters of a string between quotation marks. So many quotation marks that stand for
themselves come right before; in a long string up to two may. -/
def escapeFrom (long : Bool) (quotes : Nat) : Text → Text
  | [] => []
  | c :: rest =>
    if c = '"' then
      if quotes < (if long then 2 else 0) then '"' :: escapeFrom long (quotes + 1) rest
      else '\\' :: '"' :: escapeFrom long 0 rest
    else
      (match c with
        | '\x08' => ['\\', 'b']
        | '\t' => ['\\', 't']
        | '\n' => if long then ['\n'] else ['\\', 'n']
        | '\x0c' => ['\\', 'f']
        | '\r' => ['\\', 'r']
        | '\\' => ['\\', '\\']
        | c => if isControl c then codeOf c else [c]) ++ escapeFrom long 0 rest

/-- A string as it is written. -/
def writeString (t : Text) : Text :=
  let first := if t.contains '\n' then ['\n'] else []
  match quoting t with
  | .basic => '"' :: escapeFrom false 0 t ++ ['"']
  | .literal => '\'' :: t ++ ['\'']
  | .longBasic => ['"', '"', '"'] ++ first ++ escapeFrom true 0 t ++ ['"', '"', '"']
  | .longLiteral => ['\'', '\'', '\''] ++ first ++ t ++ ['\'', '\'', '\'']

/-- An integer as it is written. -/
def writeInteger (n : Int) : Text :=
  if n < 0 then '-' :: Text.decimal n.natAbs else Text.decimal n.natAbs

/-- A value as it is written. Several items of an array stand each on a line of its own. -/
def write : Toml → Text
  | .string t => writeString t
  | .integer n => writeInteger n
  | .boolean true => "true".toList
  | .boolean false => "false".toList
  | .array [] => "[]".toList
  | .array [v] => '[' :: write v ++ [']']
  | .array items => "[\n".toList ++ writeItems items ++ [']']
  | _ => []
where
  /-- The items of an array, each on a line of its own. -/
  writeItems : List Toml → Text
    | [] => []
    | v :: rest => "    ".toList ++ write v ++ ",\n".toList ++ writeItems rest

/-- A pair on a line of its own. -/
def writePair (entry : Text × Toml) : Text := entry.1 ++ " = ".toList ++ write entry.2 ++ ['\n']

/-- A table with its header. -/
def writeTable (entry : Text × List (Text × Toml)) : Text :=
  '[' :: entry.1 ++ "]\n".toList ++ entry.2.flatMap writePair

/-- Tables with an empty line between them. -/
def writeTables (tables : List (Text × List (Text × Toml))) : Text :=
  ['\n'].intercalate (tables.map writeTable)

end EditScript.Toml
