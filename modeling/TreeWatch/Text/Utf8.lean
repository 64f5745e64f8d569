/-
This file fixes how text and bytes correspond. Everything the system receives
and sends is a list of bytes, everything it shows is text, and UTF-8 is the only
encoding between the two. Reading back what was written is the identity
(`decode?_encode`), and only encodings of a text can be read
(`encode_of_decode?`), so the two directions never disagree.
-/

namespace TreeWatch

/-- A sequence of octets as it travels over a connection or lies in a file. -/
abbrev Bytes := List UInt8

namespace Utf8

/-- The octets of a text. -/
def encode (text : String) : Bytes := text.toByteArray.data.toList

/-- The text that a list of octets encodes, if they are well-formed UTF-8:
shortest forms only, no surrogates, nothing above U+10FFFF. -/
def decode? (bytes : Bytes) : Option String := String.fromUTF8? ⟨bytes.toArray⟩

/-! ### The two directions agree -/

theorem decode?_encode (text : String) : decode? (encode text) = some text := by
  have valid : (ByteArray.mk (encode text).toArray) = text.toByteArray := by
    simp [encode]
  unfold decode? String.fromUTF8?
  rw [valid, dif_pos text.isValidUTF8]
  rfl

theorem encode_of_decode? {bytes : Bytes} {text : String}
    (read : decode? bytes = some text) : encode text = bytes := by
  unfold decode? String.fromUTF8? at read
  split at read
  · injection read with equal
    subst equal
    simp [encode, String.fromUTF8]
  · cases read

end Utf8

end TreeWatch
