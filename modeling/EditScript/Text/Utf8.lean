import EditScript.Text.Basic

/-!
# UTF-8

Texts as bytes and back.

* `toBytes`: the encoding of a text.
* `ofBytes?`: the text of well-formed bytes.
* `ofBytesLossy`: the text of any bytes, with U+FFFD for each longest run of bytes that begins a
  character and does not end it, and for each byte that can begin none.
-/

namespace EditScript

/-- A sequence of bytes. -/
abbrev Bytes := List UInt8

namespace Text

/-- The UTF-8 encoding of a text. -/
def toBytes (t : Text) : Bytes := t.flatMap String.utf8EncodeChar

/-- A character of which some bytes have been read. -/
structure Partial where
  /-- The number of bytes that are missing. -/
  missing : Nat
  /-- The bits read so far. -/
  bits : Nat
  /-- The least value of the next byte. -/
  low : Nat
  /-- The greatest value of the next byte. -/
  high : Nat

/-- Bytes up to some place: the characters, the last first, each absent where the bytes are
malformed, and what has begun. -/
structure Decoding where
  /-- The characters, the last first. -/
  reversed : List (Option Char)
  /-- The character that has begun. -/
  begun : Option Partial

/-- Goes on with a byte that begins a character. -/
def Decoding.begin (chars : List (Option Char)) (byte : Nat) : Decoding :=
  if byte < 0x80 then ⟨some (Char.ofNat byte) :: chars, none⟩
  else if byte < 0xC2 then ⟨none :: chars, none⟩
  else if byte < 0xE0 then ⟨chars, some ⟨1, byte - 0xC0, 0x80, 0xBF⟩⟩
  else if byte = 0xE0 then ⟨chars, some ⟨2, 0, 0xA0, 0xBF⟩⟩
  else if byte = 0xED then ⟨chars, some ⟨2, 0xD, 0x80, 0x9F⟩⟩
  else if byte < 0xF0 then ⟨chars, some ⟨2, byte - 0xE0, 0x80, 0xBF⟩⟩
  else if byte = 0xF0 then ⟨chars, some ⟨3, 0, 0x90, 0xBF⟩⟩
  else if byte < 0xF4 then ⟨chars, some ⟨3, byte - 0xF0, 0x80, 0xBF⟩⟩
  else if byte = 0xF4 then ⟨chars, some ⟨3, 4, 0x80, 0x8F⟩⟩
  else ⟨none :: chars, none⟩

/-- Goes on with a byte. -/
def Decoding.feed (d : Decoding) (byte : UInt8) : Decoding :=
  match d.begun with
  | none => .begin d.reversed byte.toNat
  | some p =>
    if p.low ≤ byte.toNat ∧ byte.toNat ≤ p.high then
      let bits := p.bits * 64 + (byte.toNat - 0x80)
      if p.missing ≤ 1 then ⟨some (Char.ofNat bits) :: d.reversed, none⟩
      else ⟨d.reversed, some ⟨p.missing - 1, bits, 0x80, 0xBF⟩⟩
    else .begin (none :: d.reversed) byte.toNat

/-- The characters when the bytes end. -/
def Decoding.finish (d : Decoding) : List (Option Char) :=
  (if d.begun.isSome then none :: d.reversed else d.reversed).reverse

/-- The characters of bytes, each absent where the bytes are malformed. -/
def decode (bytes : Bytes) : List (Option Char) :=
  (bytes.foldl Decoding.feed ⟨[], none⟩).finish

/-- The text of well-formed bytes. -/
def ofBytes? (bytes : Bytes) : Option Text := (decode bytes).mapM id

/-- The text of any bytes, with U+FFFD where they are malformed. -/
def ofBytesLossy (bytes : Bytes) : Text := (decode bytes).map fun c => c.getD '\ufffd'

end Text

end EditScript
