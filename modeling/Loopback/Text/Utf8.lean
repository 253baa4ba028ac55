/-
Bytes and the texts they encode.

- `utf8 s`: the bytes of a text; `ofUtf8? bs`: the text of well-formed bytes. `ofUtf8?_utf8` says that a text is read back
  from its bytes.
- `hex bs`: two lower-case digits a byte; `ofHex s`: the bytes of pairs of digits.
-/
namespace Loopback

/-- a sequence of bytes -/
abbrev Bytes := List UInt8

namespace Text

/-! ## UTF-8 -/

/-- the bytes of a text -/
def utf8 (s : String) : Bytes :=
  s.toByteArray.data.toList

/-- the text that well-formed bytes encode -/
def ofUtf8? (bs : Bytes) : Option String :=
  String.fromUTF8? ⟨bs.toArray⟩

theorem ofUtf8?_utf8 (s : String) : ofUtf8? (utf8 s) = some s := by
  have e : (⟨(utf8 s).toArray⟩ : ByteArray) = s.toByteArray := by simp [utf8]
  rw [ofUtf8?, e, String.fromUTF8?, dif_pos s.isValidUTF8]
  rfl

/-! ## Hexadecimal digits -/

/-- the character of a hexadecimal digit -/
def hexDigit (n : Nat) : Char :=
  Char.ofNat (if n < 10 then 0x30 + n else 0x57 + n)

/-- the value of a hexadecimal digit -/
def ofHexDigit (c : Char) : Nat :=
  if c.isDigit then c.toNat - 0x30 else if 'a' ≤ c then c.toNat - 0x57 else c.toNat - 0x37

/-- two lower-case digits for each byte -/
def hex (bs : Bytes) : String :=
  String.ofList (bs.flatMap fun b => [hexDigit (b.toNat / 16), hexDigit (b.toNat % 16)])

/-- bytes of pairs of digits; a last single digit is dropped -/
def ofHexChars : List Char → Bytes
  | a :: b :: r => UInt8.ofNat (16 * ofHexDigit a + ofHexDigit b) :: ofHexChars r
  | _ => []

/-- bytes of a text of digits -/
def ofHex (s : String) : Bytes :=
  ofHexChars s.toList

end Text

end Loopback
