import EditScript.Json.Basic
import EditScript.Text.Double

/-!
# JSON tokens

A document as the sequence of its marks, strings and plain values.

* `Token.ofDocument`: the tokens of a text. Reading stops at nothing: what is no token becomes
  `Token.bad`.
* `Token.unescape`: the text of a string with its escape sequences replaced.
* `Token.ofWord`: the token for a run of letters, digits and signs.
-/

namespace EditScript.Json

/-- A piece of a document. -/
inductive Token where
  /-- A bracket, a brace, a colon or a comma. -/
  | mark (c : Char)
  /-- A string; absent if it holds half a surrogate pair. -/
  | text (value : Option Text)
  /-- A number or a word. -/
  | scalar (value : Json)
  /-- What has no place in a document. -/
  | bad

namespace Token

/-- A part of a string. -/
inductive Piece where
  /-- A character that stands for itself, or is escaped by one letter. -/
  | char (c : Char)
  /-- The 16-bit unit of a numeric escape. -/
  | unit (value : Nat)

/-- The value of a hexadecimal digit. -/
def hexValue (c : Char) : Option Nat :=
  if c.isDigit then some (c.toNat - '0'.toNat)
  else if 'a' ≤ c ∧ c ≤ 'f' then some (c.toNat - 'a'.toNat + 10)
  else if 'A' ≤ c ∧ c ≤ 'F' then some (c.toNat - 'A'.toNat + 10)
  else none

/-- The value of four hexadecimal digits. -/
def hexUnit (a b c d : Char) : Option Nat := do
  return (((← hexValue a) * 16 + (← hexValue b)) * 16 + (← hexValue c)) * 16 + (← hexValue d)

/-- The character that a backslash and a letter stand for. -/
def escaped (c : Char) : Option Char :=
  match c with
  | '"' => some '"'
  | '\\' => some '\\'
  | '/' => some '/'
  | 'b' => some '\x08'
  | 'f' => some '\x0c'
  | 'n' => some '\n'
  | 'r' => some '\r'
  | 't' => some '\t'
  | _ => none

/-- The parts of what stands between quotation marks; nothing if an escape sequence is unknown
or a control character stands for itself. -/
def pieces : Text → Option (List Piece)
  | [] => some []
  | '\\' :: 'u' :: a :: b :: c :: d :: rest => do
    return .unit (← hexUnit a b c d) :: (← pieces rest)
  | '\\' :: c :: rest => do return .char (← escaped c) :: (← pieces rest)
  | c :: rest => do
    if c = '\\' ∨ c.toNat < 0x20 then none
    return .char c :: (← pieces rest)

/-- The unit is the first half of a surrogate pair. -/
def isHigh (unit : Nat) : Bool := 0xD800 ≤ unit && unit < 0xDC00

/-- The unit is the second half of a surrogate pair. -/
def isLow (unit : Nat) : Bool := 0xDC00 ≤ unit && unit < 0xE000

/-- The text of several parts; nothing if half of a surrogate pair stands alone. -/
def join : List Piece → Option Text
  | [] => some []
  | .char c :: rest => (join rest).map (c :: ·)
  | .unit high :: .unit low :: rest =>
    if isHigh high then
      if isLow low then
        (join rest).map (Char.ofNat (0x10000 + (high - 0xD800) * 0x400 + (low - 0xDC00)) :: ·)
      else none
    else if isLow high then none
    else (join (.unit low :: rest)).map (Char.ofNat high :: ·)
  | .unit high :: rest =>
    if isHigh high ∨ isLow high then none else (join rest).map (Char.ofNat high :: ·)

/-- The token for what stands between quotation marks. -/
def ofBody (body : Text) : Token :=
  match pieces body with
  | some ps => .text (join ps)
  | none => .bad

/-- The digits at the start, and the rest. -/
def digits (t : Text) : Text × Text := t.span Char.isDigit

/-- The digits of a fraction, which may be missing, and the rest. -/
def fraction? : Text → Option (Text × Text)
  | '.' :: rest => if (digits rest).1 = [] then none else some (digits rest)
  | rest => some ([], rest)

/-- The value of an exponent, which may be missing, if it is all that is left. -/
def exponent? : Text → Option Int
  | [] => some 0
  | e :: rest =>
    if e = 'e' ∨ e = 'E' then
      let (sign, ds) :=
        match rest with
        | '-' :: ds => (-1, ds)
        | '+' :: ds => (1, ds)
        | ds => (1, ds)
      if ds ≠ [] ∧ ds.all Char.isDigit then some (sign * (Nat.ofDigitChars 10 ds 0 : Int))
      else none
    else none

/-- The number that a run of digits and signs stands for. -/
def number? (word : Text) : Option Json := do
  let (negative, rest) := match word with
    | '-' :: rest => (true, rest)
    | rest => (false, rest)
  let (whole, rest) := digits rest
  if whole = [] ∨ (whole.head? = some '0' ∧ whole.length ≠ 1) then none
  let (part, rest') ← fraction? rest
  let exponent ← exponent? rest'
  let mantissa := Nat.ofDigitChars 10 (whole ++ part) 0
  if Text.exceedsDouble mantissa (exponent - part.length) then return .broken
  return if negative ∨ rest ≠ [] then .number else .nat mantissa

/-- The token for a run of letters, digits and signs. -/
def ofWord (word : Text) : Token :=
  if word = "null".toList then .scalar .null
  else if word = "true".toList then .scalar (.bool true)
  else if word = "false".toList then .scalar (.bool false)
  else
    match number? word with
    | some v => .scalar v
    | none => .bad

/-- What is being read. -/
inductive Mode where
  /-- Between tokens. -/
  | idle
  /-- In a run of letters, digits and signs, the last of them first. -/
  | word (reversed : Text)
  /-- In a string, its characters the last first; `escaped` after a backslash. -/
  | text (reversed : Text) (escaped : Bool)

/-- A document up to some character: its tokens, the last first, and what is being read. -/
structure Scan where
  /-- The tokens that have ended, the last first. -/
  reversed : List Token
  /-- What is being read. -/
  mode : Mode

/-- The character may stand in a number or a word. -/
def isWordChar (c : Char) : Bool := c.isAlphanum || c == '+' || c == '-' || c == '.'

/-- The character may stand between tokens. -/
def isSpace (c : Char) : Bool := c == ' ' || c == '\n' || c == '\r' || c == '\t'

/-- Goes on with a character between tokens. -/
def Scan.begin (tokens : List Token) (c : Char) : Scan :=
  if isSpace c then ⟨tokens, .idle⟩
  else if c = '"' then ⟨tokens, .text [] false⟩
  else if isWordChar c then ⟨tokens, .word [c]⟩
  else if "[]{}:,".toList.contains c then ⟨.mark c :: tokens, .idle⟩
  else ⟨.bad :: tokens, .idle⟩

/-- Goes on with a character. -/
def Scan.feed (s : Scan) (c : Char) : Scan :=
  match s.mode with
  | .idle => .begin s.reversed c
  | .word w =>
    if isWordChar c then ⟨s.reversed, .word (c :: w)⟩
    else .begin (ofWord w.reverse :: s.reversed) c
  | .text body true => ⟨s.reversed, .text (c :: body) false⟩
  | .text body false =>
    if c = '"' then ⟨ofBody body.reverse :: s.reversed, .idle⟩
    else ⟨s.reversed, .text (c :: body) (c = '\\')⟩

/-- The tokens when the document ends. -/
def Scan.finish (s : Scan) : List Token :=
  (match s.mode with
    | .idle => s.reversed
    | .word w => ofWord w.reverse :: s.reversed
    | .text _ _ => .bad :: s.reversed).reverse

/-- The tokens of a document. -/
def ofDocument (document : Text) : List Token := (document.foldl Scan.feed ⟨[], .idle⟩).finish

end Token

end EditScript.Json
