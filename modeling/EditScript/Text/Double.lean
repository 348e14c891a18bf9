import EditScript.Text.Basic

/-!
# The range of doubles

Which decimals a reader of double-precision numbers can take.

* `exceedsDouble`: the decimal is rounded to infinity.
-/

namespace EditScript.Text

/-- The least number that is rounded to infinity: half a unit above the largest double. -/
def doubleLimit : Nat := Nat.pow 2 1024 - Nat.pow 2 970

/-- The decimal `mantissa * 10 ^ exponent` is rounded to infinity. Powers are only computed where
the number of digits does not decide. -/
def exceedsDouble (mantissa : Nat) (exponent : Int) : Bool :=
  let size := (decimal mantissa).length + exponent
  if mantissa = 0 ∨ size ≤ 308 then false
  else if 310 < size then true
  else if exponent < 0 then doubleLimit * Nat.pow 10 exponent.natAbs ≤ mantissa
  else doubleLimit ≤ mantissa * Nat.pow 10 exponent.natAbs

end EditScript.Text
