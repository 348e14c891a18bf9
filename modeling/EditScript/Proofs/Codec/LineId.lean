import Mathlib.Algebra.Ring.Nat
import EditScript.Codec.Queue
import EditScript.Proofs.Json.Token

/-!
# Ids of lines as text

A UUID is written as thirty-two hexadecimal digits in five groups, with hyphens between them, and is
read back from that.

* `Text.length_hexDigits`, `LineId.foldlM_hexDigits`: the digits of a number, and their value.
* `Text.map_length_cut`, `Text.flatten_cut`: a text that is cut in pieces is these pieces.
* `LineId.IsUuid`: the id is a UUID. An id that was made here is known by its number alone; a table
  of UUIDs gives it one (`LineId.named`).
* `LineId.ofText?_hyphenated`, `LineId.isUuid_of_ofText?`: every UUID is read back, and nothing but
  UUIDs is ever read.
-/

namespace EditScript

namespace Text

theorem length_hexDigits (length n : Nat) : (hexDigits length n).length = length := by
  induction length generalizing n with
  | zero => rfl
  | succ length ih => rw [hexDigits, List.length_append, ih, List.length_singleton]

theorem mem_hexDigits {length n : Nat} {c : Char} (h : c ∈ hexDigits length n) :
    ∃ d < 16, c = Nat.digitChar d := by
  induction length generalizing n with
  | zero => cases h
  | succ length ih =>
    rcases List.mem_append.1 h with h | h
    · exact ih h
    · exact ⟨n % 16, Nat.mod_lt n (by decide), List.mem_singleton.1 h⟩

/-- The pieces have the lengths that the text is cut into, if it is long enough. -/
theorem map_length_cut {lengths : List Nat} {t : Text} (h : lengths.sum ≤ t.length) :
    (cut lengths t).map List.length = lengths := by
  induction lengths generalizing t with
  | nil => rfl
  | cons length more ih =>
    rw [List.sum_cons] at h
    have hrest : more.sum ≤ (t.drop length).length := by
      rw [List.length_drop]
      omega
    rw [cut, List.map_cons, ih hrest, List.length_take_of_le (by omega)]

theorem flatten_cut {lengths : List Nat} {t : Text} (h : t.length ≤ lengths.sum) :
    (cut lengths t).flatten = t := by
  induction lengths generalizing t with
  | nil =>
    rw [List.sum_nil, Nat.le_zero_eq, List.length_eq_zero_iff] at h
    rw [h]
    rfl
  | cons length more ih =>
    rw [List.sum_cons] at h
    have hrest : (t.drop length).length ≤ more.sum := by
      rw [List.length_drop]
      omega
    rw [cut, List.flatten_cons, ih hrest, List.take_append_drop]

theorem mem_of_mem_cut {lengths : List Nat} {t piece : Text} (h : piece ∈ cut lengths t) :
    ∀ c ∈ piece, c ∈ t := by
  induction lengths generalizing t with
  | nil => cases h
  | cons length more ih =>
    intro c hc
    rcases List.mem_cons.1 h with rfl | h
    · exact List.mem_of_mem_take hc
    · exact List.mem_of_mem_drop (ih h c hc)

end Text

namespace LineId

open Json.Token (digitChar_hex)

/-- The id is a UUID. -/
def IsUuid : LineId → Prop
  | made _ => False
  | uuid _ => True

/-- The id with a UUID for the number that it was made under. -/
def named (names : Nat → BitVec 128) : LineId → LineId
  | made serial => uuid (names serial)
  | uuid value => uuid value

theorem isUuid_named (names : Nat → BitVec 128) (id : LineId) : (id.named names).IsUuid := by
  cases id <;> trivial

/-- Digits read after others are the lower ones. -/
theorem foldlM_hexDigits (length n start : Nat) :
    (Text.hexDigits length n).foldlM
        (fun n c => do return n * 16 + (← Json.Token.hexValue c)) start =
      some (start * 16 ^ length + n % 16 ^ length) := by
  induction length generalizing n with
  | zero => simp [Text.hexDigits, Nat.mod_one]
  | succ length ih =>
    have hdigit := (digitChar_hex (n % 16) (Nat.mod_lt n (by decide))).2.2
    have hvalue : (start * 16 ^ length + n / 16 % 16 ^ length) * 16 + n % 16 =
        start * 16 ^ (length + 1) + n % 16 ^ (length + 1) := by
      rw [Nat.pow_succ, ← Nat.mul_assoc, Nat.mul_comm (16 ^ length) 16, Nat.mod_mul]
      omega
    rw [Text.hexDigits, List.foldlM_append, ih, ← hvalue]
    simp [hdigit]

theorem ofHex?_hexDigits (value : BitVec 128) :
    ofHex? (Text.hexDigits 32 value.toNat) = some (uuid value) := by
  have hvalue : value.toNat % 16 ^ 32 = value.toNat := Nat.mod_eq_of_lt value.isLt
  unfold ofHex?
  rw [foldlM_hexDigits, hvalue]
  simp

/-- A hyphen is no digit, so the groups are found again. -/
theorem ofHyphenated?_hyphenated (value : BitVec 128) :
    ofHyphenated? (hyphenated value) = some (uuid value) := by
  have hlength : (Text.hexDigits 32 value.toNat).length = groups.sum :=
    Text.length_hexDigits 32 value.toNat
  have hhyphen : ∀ piece ∈ Text.cut groups (Text.hexDigits 32 value.toNat), '-' ∉ piece := by
    intro piece hpiece hmem
    obtain ⟨d, hd, hc⟩ := Text.mem_hexDigits (Text.mem_of_mem_cut hpiece '-' hmem)
    have hdigits : ∀ d < 16, '-' ≠ Nat.digitChar d := by decide
    exact hdigits d hd hc
  have hsplit : (hyphenated value).splitOn '-' =
      Text.cut groups (Text.hexDigits 32 value.toNat) :=
    List.splitOn_intercalate '-' hhyphen (List.cons_ne_nil _ _)
  unfold ofHyphenated?
  simp only [hsplit]
  rw [if_pos (Text.map_length_cut (Nat.le_of_eq hlength.symm)),
    Text.flatten_cut (Nat.le_of_eq hlength), ofHex?_hexDigits]

theorem length_hyphenated (value : BitVec 128) : (hyphenated value).length = 36 := by
  simp [hyphenated, groups, Text.cut, Text.length_hexDigits, List.intercalate]

/-- **Every UUID is read back** from its hyphenated form. -/
theorem ofText?_hyphenated (value : BitVec 128) :
    ofText? (hyphenated value) = some (uuid value) := by
  unfold ofText?
  rw [length_hyphenated]
  exact ofHyphenated?_hyphenated value

theorem isUuid_of_ofHex? {digits : Text} {id : LineId} (h : ofHex? digits = some id) :
    id.IsUuid := by
  obtain ⟨n, -, hn⟩ := Option.bind_eq_some_iff.1 h
  cases hn
  trivial

theorem isUuid_of_ofHyphenated? {t : Text} {id : LineId} (h : ofHyphenated? t = some id) :
    id.IsUuid := by
  unfold ofHyphenated? at h
  simp only at h
  split at h
  · exact isUuid_of_ofHex? h
  · cases h

/-- **Nothing but UUIDs is read.** -/
theorem isUuid_of_ofText? {t : Text} {id : LineId} (h : ofText? t = some id) : id.IsUuid := by
  unfold ofText? at h
  split at h
  · exact isUuid_of_ofHex? h
  · exact isUuid_of_ofHyphenated? h
  · split at h
    · exact isUuid_of_ofHyphenated? h
    · cases h
  · split at h
    · exact isUuid_of_ofHyphenated? h
    · cases h
  · cases h

end LineId
end EditScript
