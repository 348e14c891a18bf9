import Mathlib.Data.List.Basic
import EditScript.Text.Utf8

/-!
# UTF-8 loses nothing

The bytes of a text are well-formed, and the text is read back from them. One character takes one to
four bytes; the first one tells how many, and leaves fewer values to the second one where a shorter
form would do, where a surrogate would come out, or where no characters are left.

* `Text.Decoding.feed_more`, `Text.Decoding.feed_last`: a byte that goes on with a character.
* `Text.Decoding.foldl_encodeChar`: the bytes of one character.
* `Text.ofBytes?_toBytes`: the bytes of a text, by induction on its characters.
-/

namespace EditScript.Text

namespace Decoding

variable {chars : List (Option Char)} {p : Partial} {n : Nat}

theorem toNat_ofNat (h : n < 256) : (UInt8.ofNat n).toNat = n := UInt8.toNat_ofNat_of_lt' h

/-- A byte that goes on with a character and does not end it. -/
theorem feed_more (hn : n < 256) (hlow : p.low ≤ n) (hhigh : n ≤ p.high) (hmore : 1 < p.missing) :
    feed ⟨chars, some p⟩ (UInt8.ofNat n) =
      ⟨chars, some ⟨p.missing - 1, p.bits * 64 + (n - 0x80), 0x80, 0xBF⟩⟩ := by
  simp [feed, toNat_ofNat hn, hlow, hhigh, Nat.not_le.2 hmore]

/-- A byte that ends a character. -/
theorem feed_last (hn : n < 256) (hlow : p.low ≤ n) (hhigh : n ≤ p.high) (hlast : p.missing = 1) :
    feed ⟨chars, some p⟩ (UInt8.ofNat n) =
      ⟨some (Char.ofNat (p.bits * 64 + (n - 0x80))) :: chars, none⟩ := by
  simp [feed, toNat_ofNat hn, hlow, hhigh, hlast]

/-- The first byte of a character decides how many follow, and between which bounds the next one
lies. -/
theorem feed_first (hn : n < 256) : feed ⟨chars, none⟩ (UInt8.ofNat n) = .begin chars n := by
  simp [feed, toNat_ofNat hn]

/-- A character of two bytes begins with what its code leaves above the last six bits. -/
theorem begin_two {v : Nat} (hlow : 0x80 ≤ v) (hhigh : v < 0x800) :
    Decoding.begin chars (v / 64 % 32 + 192) = ⟨chars, some ⟨1, v / 64, 0x80, 0xBF⟩⟩ := by
  have hbits : v / 64 % 32 + 192 - 0xC0 = v / 64 := by omega
  have hbounds : 0xC2 ≤ v / 64 % 32 + 192 ∧ v / 64 % 32 + 192 < 0xE0 := by omega
  unfold Decoding.begin
  rw [if_neg (by omega), if_neg (by omega), if_pos hbounds.2, hbits]

/-- A character of three bytes, which is no surrogate, begins with what its code leaves above the
last twelve bits; its second byte is within the bounds. -/
theorem begin_three (chars : List (Option Char)) (v : Nat) (hlow : 0x800 ≤ v)
    (hhigh : v < 0x10000) (hvalid : v < 0xD800 ∨ 0xDFFF < v) :
    ∃ low high, Decoding.begin chars (v / 4096 % 16 + 224) =
        ⟨chars, some ⟨2, v / 4096, low, high⟩⟩ ∧
      low ≤ v / 64 % 64 + 128 ∧ v / 64 % 64 + 128 ≤ high := by
  have hbits : v / 4096 % 16 + 224 - 0xE0 = v / 4096 := by omega
  unfold Decoding.begin
  rw [if_neg (by omega), if_neg (by omega), if_neg (by omega), hbits]
  by_cases hzero : v / 4096 = 0
  · -- Shorter forms are excluded.
    exact ⟨0xA0, 0xBF, by rw [if_pos (by omega), hzero], by omega, by omega⟩
  · rw [if_neg (by omega)]
    by_cases hsurrogate : v / 4096 = 0xD
    · exact ⟨0x80, 0x9F, by rw [if_pos (by omega), hsurrogate], by omega, by omega⟩
    · exact ⟨0x80, 0xBF, by rw [if_neg (by omega), if_pos (by omega)], by omega, by omega⟩

/-- A character of four bytes begins with what its code leaves above the last eighteen bits; its
second byte is within the bounds. -/
theorem begin_four (chars : List (Option Char)) (v : Nat) (hlow : 0x10000 ≤ v)
    (hhigh : v < 0x110000) :
    ∃ low high, Decoding.begin chars (v / 262144 % 8 + 240) =
        ⟨chars, some ⟨3, v / 262144, low, high⟩⟩ ∧
      low ≤ v / 4096 % 64 + 128 ∧ v / 4096 % 64 + 128 ≤ high := by
  have hbits : v / 262144 % 8 + 240 - 0xF0 = v / 262144 := by omega
  unfold Decoding.begin
  rw [if_neg (by omega), if_neg (by omega), if_neg (by omega), if_neg (by omega), if_neg (by omega),
    if_neg (by omega), hbits]
  by_cases hzero : v / 262144 = 0
  · exact ⟨0x90, 0xBF, by rw [if_pos (by omega), hzero], by omega, by omega⟩
  · rw [if_neg (by omega)]
    by_cases hlast : v / 262144 = 4
    · exact ⟨0x80, 0x8F, by rw [if_neg (by omega), if_pos (by omega), hlast], by omega, by omega⟩
    · exact ⟨0x80, 0xBF, by rw [if_pos (by omega)], by omega, by omega⟩

/-- **The bytes of a character** are read as this character. -/
theorem foldl_encodeChar (chars : List (Option Char)) (c : Char) :
    (String.utf8EncodeChar c).foldl feed ⟨chars, none⟩ = ⟨some c :: chars, none⟩ := by
  have hvalid : c.toNat < 0xD800 ∨ 0xDFFF < c.toNat ∧ c.toNat < 0x110000 := c.valid
  have hchar : Char.ofNat c.toNat = c := Char.ofNat_toNat c
  rw [String.utf8EncodeChar.eq_1, Char.toNat_val]
  generalize c.toNat = v at *
  split
  · have hbegin : Decoding.begin chars v = ⟨some (Char.ofNat v) :: chars, none⟩ := if_pos (by omega)
    rw [List.foldl_cons, feed_first (by omega), hbegin, hchar]
    rfl
  split
  · rw [List.foldl_cons, feed_first (by omega), begin_two (by omega) (by omega), List.foldl_cons,
      feed_last (by omega) (by simp) (by simp; omega) rfl, List.foldl_nil]
    have hv : v / 64 * 64 + (v % 64 + 128 - 0x80) = v := by omega
    rw [hv, hchar]
  split
  · obtain ⟨low, high, hbegin, hlow, hhigh⟩ :=
      begin_three chars v (by omega) (by omega) (by omega)
    rw [List.foldl_cons, feed_first (by omega), hbegin, List.foldl_cons,
      feed_more (by omega) hlow hhigh (by simp), List.foldl_cons,
      feed_last (by omega) (by simp) (by simp; omega) rfl, List.foldl_nil]
    have hv : (v / 4096 * 64 + (v / 64 % 64 + 128 - 0x80)) * 64 + (v % 64 + 128 - 0x80) = v := by
      omega
    rw [hv, hchar]
  · obtain ⟨low, high, hbegin, hlow, hhigh⟩ :=
      begin_four chars v (by omega) (by omega)
    rw [List.foldl_cons, feed_first (by omega), hbegin, List.foldl_cons,
      feed_more (by omega) hlow hhigh (by simp), List.foldl_cons,
      feed_more (by omega) (by simp) (by simp; omega) (by simp), List.foldl_cons,
      feed_last (by omega) (by simp) (by simp; omega) rfl, List.foldl_nil]
    have hv : ((v / 262144 * 64 + (v / 4096 % 64 + 128 - 0x80)) * 64 +
        (v / 64 % 64 + 128 - 0x80)) * 64 + (v % 64 + 128 - 0x80) = v := by
      omega
    rw [hv, hchar]

end Decoding

/-- Characters are read one after the other, the last one first. -/
theorem foldl_toBytes (chars : List (Option Char)) (t : Text) :
    (toBytes t).foldl Decoding.feed ⟨chars, none⟩ = ⟨(t.map some).reverse ++ chars, none⟩ := by
  induction t generalizing chars with
  | nil => rfl
  | cons c t ih =>
    have hsplit : toBytes (c :: t) = String.utf8EncodeChar c ++ toBytes t := List.flatMap_cons
    rw [hsplit, List.foldl_append, Decoding.foldl_encodeChar, ih]
    simp

/-- **A text is read back from its bytes.** -/
theorem ofBytes?_toBytes (t : Text) : ofBytes? (toBytes t) = some t := by
  have hdecode : decode (toBytes t) = t.map some := by
    unfold decode
    rw [foldl_toBytes, List.append_nil]
    exact List.reverse_reverse _
  unfold ofBytes?
  rw [hdecode, List.mapM_map]
  have hread : t.mapM (fun c => (pure (id c) : Option Char)) = pure (t.map id) := List.mapM_pure
  rwa [List.map_id] at hread

end EditScript.Text
