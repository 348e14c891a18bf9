/-!
# Text

A text is the list of its scalar values, so that an offset into it counts characters and its
length is the number of characters, whatever their encoded size.

* `decimal`, `offset?`: numbers as digits. An offset is written with ASCII digits only and is
  below `offsetLimit`.
* `lines`, `unlines`: a text as the pieces between its line feeds. There is always one.
* `paragraphs`: a text as the lines that a reader of a file or a reply sees, with either kind of
  line break and no empty last line.
-/

namespace EditScript

/-- The scalar values of a text, in order. -/
abbrev Text := List Char

namespace Text

/-- The decimal digits of a number, without leading zeros. -/
def decimal (n : Nat) : Text := Nat.toDigits 10 n

/-- Offsets and sizes are 64-bit: they lie below this bound. -/
def offsetLimit : Nat := 0x10000000000000000

/-- Numbers with a sign are 64-bit too: they lie below this bound, but not below its negative. -/
def signedLimit : Nat := 0x8000000000000000

/-- The offset that a word of ASCII digits stands for; leading zeros are allowed. -/
def offset? (word : Text) : Option Nat :=
  if word ≠ [] ∧ word.all Char.isDigit ∧ Nat.ofDigitChars 10 word 0 < offsetLimit then
    some (Nat.ofDigitChars 10 word 0)
  else none

theorem offset?_decimal {n : Nat} (h : n < offsetLimit) : offset? (decimal n) = some n := by
  have hne : Nat.toDigits 10 n ≠ [] := Nat.toDigits_ne_nil
  have hall : (Nat.toDigits 10 n).all Char.isDigit = true :=
    List.all_eq_true.2 fun _ hc => Nat.isDigit_of_mem_toDigits (by decide) (by decide) hc
  have hval : Nat.ofDigitChars 10 (Nat.toDigits 10 n) 0 = n :=
    Nat.ofDigitChars_toDigits (by decide) (by decide)
  simp [offset?, decimal, hne, hall, hval, h]

/-- The pieces of a text between its line feeds. -/
def lines (t : Text) : List Text := t.splitOn '\n'

/-- Pieces joined by line feeds. -/
def unlines (pieces : List Text) : Text := ['\n'].intercalate pieces

theorem unlines_lines (t : Text) : unlines (lines t) = t := List.intercalate_splitOn '\n'

theorem lines_ne_nil (t : Text) : lines t ≠ [] := List.splitOnP_ne_nil _ _

/-- A line without the carriage return at its end. -/
def dropReturn (line : Text) : Text :=
  if line.getLast? = some '\r' then line.dropLast else line

/-- The lines of a text that ends each of them by a line feed, or by a carriage return and a
line feed. What follows the last line feed is a line as it stands, unless it is empty. -/
def paragraphs (t : Text) : List Text :=
  let pieces := lines t
  pieces.dropLast.map dropReturn ++ pieces.getLast?.toList.filter (· ≠ [])

/-- Uppercase letters for the ASCII letters; every other character is kept. -/
def upper (t : Text) : Text := t.map Char.toUpper

end Text

end EditScript
