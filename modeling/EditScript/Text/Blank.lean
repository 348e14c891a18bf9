import EditScript.Text.Basic

/-!
# Blank characters

The characters with the Unicode property `White_Space`, and the parts of a text that they bound.

* `isBlank`: the twenty-five blank characters.
* `trim`, `trimStart`: a text without the blanks around it, or before it.
* `words`: the maximal runs of characters that are not blank.
* `splitBlank`: a text cut at its first blank.
-/

namespace EditScript.Text

/-- The character has the property `White_Space`. -/
def isBlank (c : Char) : Bool :=
  let n := c.toNat
  (0x9 ≤ n && n ≤ 0xD) || n == 0x20 || n == 0x85 || n == 0xA0 || n == 0x1680 ||
    (0x2000 ≤ n && n ≤ 0x200A) || n == 0x2028 || n == 0x2029 || n == 0x202F || n == 0x205F ||
    n == 0x3000

/-- The text from its first character that is not blank. -/
def trimStart (t : Text) : Text := t.dropWhile isBlank

/-- The text up to its last character that is not blank. -/
def trimEnd (t : Text) : Text := (t.reverse.dropWhile isBlank).reverse

/-- The text without the blanks at both ends. -/
def trim (t : Text) : Text := trimEnd (trimStart t)

/-- The maximal runs of characters that are not blank, in order. -/
def words (t : Text) : List Text := (t.splitOnP isBlank).filter (· ≠ [])

/-- The characters before the first blank, and those after it. -/
def splitBlank (t : Text) : Text × Text :=
  (t.takeWhile fun c => !isBlank c, (t.dropWhile fun c => !isBlank c).drop 1)

end EditScript.Text
