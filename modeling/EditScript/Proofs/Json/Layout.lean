import Mathlib.Data.Nat.Digits.Defs
import EditScript.Proofs.Json.Document

/-!
# Two layouts of one value

A value is written on one line or over several. Either way it is the same tokens, so either way the
same value is read. It is the value that was written if every number in it is 64-bit.

* `Json.spells_compact`: a value that is written on one line spells its tokens.
* `Json.Layout`, `Json.parse?_text`: what is read where a value has been written in some layout.
* `Json.written_nat`: a 64-bit number is read as it was written.
-/

namespace EditScript

/-- The digits of a 64-bit number are far too few for infinity. -/
theorem Text.exceedsDouble_of_lt {n : Nat} (h : n < offsetLimit) : exceedsDouble n 0 = false := by
  have hpow : n < 10 ^ 20 := Nat.lt_of_lt_of_le h (by decide)
  have hlength : (decimal n).length ≤ 20 := Nat.toDigits_length 10 n 20 (by decide) hpow
  unfold exceedsDouble
  exact if_pos (.inr (by omega))

namespace Json

open Token

mutual

theorem spells_compact : ∀ v : Json, Spells (compact v) (tokens v)
  | array items =>
    have hclose := (spells_compactItems items).mark (c := ']') (by decide) .nil
    Spells.nil.mark (by decide) hclose
  | object members =>
    have hclose := (spells_compactMembers members).mark (c := '\x7d') (by decide) .nil
    Spells.nil.mark (by decide) hclose
  | null => .plain null
  | bool b => .plain (bool b)
  | nat n => .plain (nat n)
  | number => .plain number
  | string t => .plain (string t)
  | broken => .plain broken

theorem spells_compactItems : ∀ items : List Json, Spells (compactItems items) (itemTokens items)
  | [] => .nil
  | [v] => spells_compact v
  | v :: w :: rest => (spells_compact v).mark (by decide) (spells_compactItems (w :: rest))

theorem spells_compactMembers : ∀ members : List (Option Text × Json),
    Spells (compactMembers members) (memberTokens members)
  | [] => .nil
  | [(key, v)] => (Spells.quote (key.getD [])).mark (by decide) (spells_compact v)
  | (key, v) :: m :: rest =>
    have hfirst := (Spells.quote (key.getD [])).mark (c := ':') (by decide) (spells_compact v)
    hfirst.mark (by decide) (spells_compactMembers (m :: rest))

end

/-- How a value is laid out. -/
inductive Layout where
  /-- On one line, without blanks. -/
  | compact
  /-- With each part on a line of its own. -/
  | pretty

/-- The document in a layout. -/
def Layout.text : Layout → Json → Text
  | compact, v => v.compact
  | pretty, v => v.pretty

theorem Layout.spells (layout : Layout) (v : Json) : Spells (layout.text v) (tokens v) := by
  cases layout with
  | compact => exact spells_compact v
  | pretty => exact spells_prettyAt v 0

/-- **The layout does not matter** for what is read. -/
theorem parse?_text (layout : Layout) (v : Json) : parse? (layout.text v) = some (written v) :=
  parse?_of_spells (layout.spells v)

theorem written_nat {n : Nat} (h : n < Text.offsetLimit) : written (nat n) = nat n := by
  show (if Text.exceedsDouble n 0 then broken else nat n) = nat n
  rw [Text.exceedsDouble_of_lt h]
  rfl

theorem itemsWritten_eq_map (items : List Json) : itemsWritten items = items.map written := by
  induction items with
  | nil => rfl
  | cons v rest ih => exact congrArg (written v :: ·) ih

end Json
end EditScript
