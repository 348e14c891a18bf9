import EditScript.Text.Double
import EditScript.Toml.Basic

/-!
# Plain TOML values

The numbers, dates and words of TOML. Each stands in a document as a run of letters, digits and
signs; only a date and a time may be separated by a space.

* `Toml.ofWord?`: the value of such a run.
* `Toml.isDate`, `Toml.isTime`, `Toml.isOffset`: the parts of a date-time, checked against the
  calendar and the clock.
-/

namespace EditScript.Toml

/-- The digits in a run that may be divided by single underscores. -/
def grouped? (isDigit : Char → Bool) (run : Text) : Option Text :=
  let groups := run.splitOn '_'
  if groups.all fun g => g ≠ [] ∧ g.all isDigit then some groups.flatten else none

/-- The sign in front, `true` for a minus, and what follows. -/
def sign (word : Text) : Bool × Text :=
  match word with
  | '-' :: rest => (true, rest)
  | '+' :: rest => (false, rest)
  | rest => (false, rest)

/-- The digits of a number without leading zeros. -/
def wholeDigits? (run : Text) : Option Text :=
  if run.head? = some '0' ∧ run.length ≠ 1 then none else grouped? Char.isDigit run

/-- The value of a digit in bases up to sixteen. -/
def digitValue (c : Char) : Nat :=
  if c.isDigit then c.toNat - '0'.toNat
  else if 'a' ≤ c ∧ c ≤ 'f' then c.toNat - 'a'.toNat + 10
  else if 'A' ≤ c ∧ c ≤ 'F' then c.toNat - 'A'.toNat + 10
  else 16

/-- The number that a run of digits stands for in a base. -/
def inBase? (base : Nat) (run : Text) : Option Nat := do
  let digits ← grouped? (fun c => digitValue c < base) run
  return digits.foldl (fun n c => n * base + digitValue c) 0

/-- Integers are 64-bit. -/
def integer? (value : Int) : Option Toml :=
  if -Text.signedLimit ≤ value ∧ value < Text.signedLimit then some (.integer value) else none

/-- The integer that a word stands for, in any base. -/
def ofInteger? (word : Text) : Option Toml :=
  match word with
  | '0' :: 'x' :: run => do integer? (← inBase? 16 run)
  | '0' :: 'o' :: run => do integer? (← inBase? 8 run)
  | '0' :: 'b' :: run => do integer? (← inBase? 2 run)
  | word => do
    let (negative, run) := sign word
    let digits ← wholeDigits? run
    let magnitude : Int := Nat.ofDigitChars 10 digits 0
    integer? (if negative then -magnitude else magnitude)

/-- The character may stand in a run of grouped digits. -/
def isGroupChar (c : Char) : Bool := c.isDigit || c == '_'

/-- The value of an exponent that is all that is left; zero if nothing is. -/
def exponent? (t : Text) : Option Int :=
  match t with
  | [] => some 0
  | e :: rest =>
    if e = 'e' ∨ e = 'E' then do
      let (negative, run) := sign rest
      let magnitude : Int := Nat.ofDigitChars 10 (← grouped? Char.isDigit run) 0
      return if negative then -magnitude else magnitude
    else none

/-- The word is a float. A positive one that is too large is none. -/
def isFloat (word : Text) : Bool :=
  let (negative, rest) := sign word
  let special := rest = "inf".toList || rest = "nan".toList
  let whole := rest.takeWhile isGroupChar
  let (run, tail) :=
    match rest.dropWhile isGroupChar with
    | '.' :: tail => (some (tail.takeWhile isGroupChar), tail.dropWhile isGroupChar)
    | tail => (none, tail)
  let number := do
    if run.isNone ∧ tail = [] then none
    let digits ← wholeDigits? whole
    let part ← match run with
      | some run => grouped? Char.isDigit run
      | none => some []
    let exponent ← exponent? tail
    let mantissa := Nat.ofDigitChars 10 (digits ++ part) 0
    return negative || !Text.exceedsDouble mantissa (exponent - part.length)
  special || number.getD false

/-- The number that two digits stand for. -/
def twoDigits? (a b : Char) : Option Nat :=
  if a.isDigit ∧ b.isDigit then some (digitValue a * 10 + digitValue b) else none

/-- The number of days in a month. -/
def daysIn (year month : Nat) : Nat :=
  if month = 2 then
    if year % 4 = 0 ∧ (year % 100 ≠ 0 ∨ year % 400 = 0) then 29 else 28
  else if month = 4 ∨ month = 6 ∨ month = 9 ∨ month = 11 then 30
  else 31

/-- The text is a date of the calendar. -/
def isDate : Text → Bool
  | [y, y', y'', y''', '-', m, m', '-', d, d'] =>
    let number := do
      let year := (← twoDigits? y y') * 100 + (← twoDigits? y'' y''')
      let month ← twoDigits? m m'
      let day ← twoDigits? d d'
      return decide (1 ≤ month ∧ month ≤ 12 ∧ 1 ≤ day ∧ day ≤ daysIn year month)
    number.getD false
  | _ => false

/-- The hour and the minute are on the clock. -/
def isClock (h h' m m' : Char) : Bool :=
  ((twoDigits? h h').map fun hour => decide (hour ≤ 23)).getD false &&
    ((twoDigits? m m').map fun minute => decide (minute ≤ 59)).getD false

/-- The text is nothing, or the distance to universal time. -/
def isOffset : Text → Bool
  | [] => true
  | [c] => c == 'Z' || c == 'z'
  | [s, h, h', ':', m, m'] => (s == '+' || s == '-') && isClock h h' m m'
  | _ => false

/-- The text is a time of day, with what may follow it. -/
def isTime (rest : Text → Bool) : Text → Bool
  | h :: h' :: ':' :: m :: m' :: ':' :: s :: s' :: tail =>
    isClock h h' m m' && ((twoDigits? s s').map fun second => decide (second ≤ 60)).getD false &&
      match tail with
      | '.' :: tail => tail.takeWhile Char.isDigit ≠ [] && rest (tail.dropWhile Char.isDigit)
      | tail => rest tail
  | _ => false

/-- The text is a date, a time, or a date and a time with a letter between them. -/
def isMoment (word : Text) : Bool :=
  isTime List.isEmpty word || isDate word ||
    isDate (word.take 10) &&
      match word.drop 10 with
      | c :: time => (c == 'T' || c == 't') && isTime isOffset time
      | [] => false

/-- The value that a word stands for. -/
def ofWord? (word : Text) : Option Toml :=
  if word = "true".toList then some (.boolean true)
  else if word = "false".toList then some (.boolean false)
  else
    match ofInteger? word with
    | some v => some v
    | none => if isFloat word then some .float else if isMoment word then some .moment else none

end EditScript.Toml
