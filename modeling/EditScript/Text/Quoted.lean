import EditScript.Text.Basic
import EditScript.Text.Printable

/-!
# Quoted text

A text between double quotes, in which every character that would not be seen as itself is
written as an escape sequence.

* `escape`: how one character is written.
* `quoted`: the whole text, with its quotation marks.
-/

namespace EditScript.Text

/-- The hexadecimal digits of a number, lowercase, without leading zeros. -/
def hexadecimal (n : Nat) : Text := Nat.toDigits 16 n

/-- A character as it is written between quotation marks. -/
def escape (c : Char) : Text :=
  if c = Char.ofNat 0 then ['\\', '0']
  else if c = '\t' then ['\\', 't']
  else if c = '\r' then ['\\', 'r']
  else if c = '\n' then ['\\', 'n']
  else if c = '"' then ['\\', '"']
  else if c = '\\' then ['\\', '\\']
  else if isPrintable c then [c]
  else ['\\', 'u', '\x7b'] ++ hexadecimal c.toNat ++ ['\x7d']

/-- The text between quotation marks, on one line. -/
def quoted (t : Text) : Text := '"' :: t.flatMap escape ++ ['"']

end EditScript.Text
