import Mathlib.Data.List.Induction
import EditScript.Proofs.Text.Blank

/-!
# Numerals

What a word of digits stands for, digit by digit, and which words are read as offsets.

* `Text.Numeral`: the number of a word of ASCII digits; leading zeros do not count.
* `Text.offset?_eq_some_iff`: an offset is read from the numerals below `Text.offsetLimit`, and
  from nothing else.
* `Text.numeral_decimal`: every number is written with a numeral for it, and with no leading zero
  (`Text.eq_zero_of_head?_decimal`).
-/

namespace EditScript.Text

/-- The number that a digit stands for. -/
def digitValue (c : Char) : Nat := c.toNat - '0'.toNat

/-- The number that a word of ASCII digits stands for: each digit after the first makes it ten
times as large and adds its own value. -/
inductive Numeral : Text → Nat → Prop
  | digit {c : Char} (h : c.isDigit = true) : Numeral [c] (digitValue c)
  | more {word : Text} {n : Nat} {c : Char} (hw : Numeral word n) (h : c.isDigit = true) :
      Numeral (word ++ [c]) (10 * n + digitValue c)

variable {word : Text} {n : Nat}

theorem isBlank_of_isDigit {c : Char} (h : c.isDigit = true) : isBlank c = false := by
  simp only [Char.isDigit, Bool.and_eq_true, decide_eq_true_eq, ge_iff_le,
    UInt32.le_iff_toNat_le] at h
  have h₁ : 48 ≤ c.toNat := h.1
  have h₂ : c.toNat ≤ 57 := h.2
  unfold isBlank
  simp only [Bool.or_eq_false_iff, Bool.and_eq_false_iff, decide_eq_false_iff_not,
    beq_eq_false_iff_ne]
  omega

theorem Numeral.isDigit (h : Numeral word n) : ∀ c ∈ word, c.isDigit = true := by
  induction h with
  | digit h => exact fun c hc => List.mem_singleton.1 hc ▸ h
  | more _ h ih =>
    intro c hc
    rcases List.mem_append.1 hc with hc | hc
    · exact ih c hc
    · exact List.mem_singleton.1 hc ▸ h

theorem Numeral.ne_nil (h : Numeral word n) : word ≠ [] := by
  cases h <;> simp

theorem Numeral.solid (h : Numeral word n) : Solid word :=
  ⟨h.ne_nil, fun c hc => isBlank_of_isDigit (h.isDigit c hc)⟩

/-- Digits are read from left to right. -/
theorem Numeral.ofDigitChars (h : Numeral word n) : Nat.ofDigitChars 10 word 0 = n := by
  induction h with
  | digit => simp [Nat.ofDigitChars_cons, digitValue]
  | more _ _ ih => rw [Nat.ofDigitChars_append, ih]; simp [Nat.ofDigitChars_cons, digitValue]

theorem numeral_ofDigitChars (hne : word ≠ []) (hd : ∀ c ∈ word, c.isDigit = true) :
    Numeral word (Nat.ofDigitChars 10 word 0) := by
  induction word using List.reverseRecOn with
  | nil => exact absurd rfl hne
  | append_singleton word c ih =>
    have hc : c.isDigit = true := hd c (by simp)
    have hvalue : Nat.ofDigitChars 10 (word ++ [c]) 0 =
        10 * Nat.ofDigitChars 10 word 0 + digitValue c := by
      rw [Nat.ofDigitChars_append]
      simp [Nat.ofDigitChars_cons, digitValue]
    rw [hvalue]
    rcases eq_or_ne word [] with rfl | hword
    · simpa using Numeral.digit hc
    · exact .more (ih hword fun x hx => hd x (List.mem_append_left _ hx)) hc

/-- **The words that are offsets**: the numerals whose number is below the limit. -/
theorem offset?_eq_some_iff : offset? word = some n ↔ Numeral word n ∧ n < offsetLimit := by
  unfold offset?
  constructor
  · intro h
    split at h
    · rename_i hw
      obtain ⟨hne, hd, hlt⟩ := hw
      cases h
      exact ⟨numeral_ofDigitChars hne (List.all_eq_true.1 hd), hlt⟩
    · cases h
  · rintro ⟨hn, hlt⟩
    have hd : word.all Char.isDigit = true := List.all_eq_true.2 hn.isDigit
    rw [hn.ofDigitChars, if_pos ⟨hn.ne_nil, hd, hlt⟩]

/-- A number is written with a numeral for it. -/
theorem numeral_decimal (n : Nat) : Numeral (decimal n) n := by
  have hvalue : Nat.ofDigitChars 10 (decimal n) 0 = n :=
    Nat.ofDigitChars_toDigits (by decide) (by decide)
  have hne : decimal n ≠ [] := Nat.toDigits_ne_nil
  have hdigit : ∀ c ∈ decimal n, c.isDigit = true :=
    fun _ hc => Nat.isDigit_of_mem_toDigits (by decide) (by decide) hc
  have hnumeral := numeral_ofDigitChars hne hdigit
  rwa [hvalue] at hnumeral

/-- A number is known by its digits. -/
theorem decimal_injective : Function.Injective decimal := by
  intro m n h
  have hm := (numeral_decimal m).ofDigitChars
  rw [h, (numeral_decimal n).ofDigitChars] at hm
  exact hm.symm

/-- Zero alone is written with a zero in front. -/
theorem eq_zero_of_head?_decimal (n : Nat) (h : (decimal n).head? = some '0') : n = 0 := by
  induction n using Nat.strongRecOn with
  | ind n ih =>
    rcases Nat.lt_or_ge n 10 with hlt | hge
    · have hdigit : decimal n = [Nat.digitChar n] := Nat.toDigits_of_lt_base hlt
      rw [hdigit] at h
      exact Nat.digitChar_eq_zero.1 (Option.some.inj h)
    · have hdigits : decimal n = decimal (n / 10) ++ [Nat.digitChar (n % 10)] :=
        Nat.toDigits_of_base_le (by decide) hge
      obtain ⟨c, rest, hrest⟩ := List.exists_cons_of_ne_nil (numeral_decimal (n / 10)).ne_nil
      have hhead : (decimal (n / 10)).head? = some '0' := by
        rw [hdigits, hrest] at h
        rw [hrest]
        exact h
      have hzero : n / 10 = 0 := ih (n / 10) (by omega) hhead
      omega

end EditScript.Text
