/-
This file says how the octets of a text arise from its characters: one after the other
(`encode_ofList`), a character below 128 as one octet and any other as octets of 128
and more. A reader that looks for certain characters below 128 therefore never finds
one inside another character.
-/

import TreeWatch.Text.Utf8

namespace TreeWatch.Utf8

theorem encode_ofList (chars : List Char) :
    encode (String.ofList chars) = chars.flatMap String.utf8EncodeChar := by
  rw [encode, String.toByteArray_ofList, List.utf8Encode, List.data_toByteArray,
    List.toList_toArray]

theorem encode_eq_flatMap (text : String) :
    encode text = text.toList.flatMap String.utf8EncodeChar := by
  rw [← encode_ofList, String.ofList_toList]

@[simp] theorem encode_append (first second : String) :
    encode (first ++ second) = encode first ++ encode second := by
  rw [encode_eq_flatMap, String.toList_append, List.flatMap_append, ← encode_eq_flatMap,
    ← encode_eq_flatMap]

theorem encode_join (texts : List String) : encode (String.join texts) = texts.flatMap encode := by
  suffices general : ∀ before : String,
      encode (texts.foldl (· ++ ·) before) = encode before ++ texts.flatMap encode from general ""
  induction texts with
  | nil => exact fun before => (List.append_nil _).symm
  | cons text texts inductionHypothesis =>
    intro before
    rw [List.foldl_cons, inductionHypothesis, encode_append, List.append_assoc, List.flatMap_cons]

theorem encodeChar_ne_nil (char : Char) : String.utf8EncodeChar char ≠ [] := by
  rw [← List.length_pos_iff, String.length_utf8EncodeChar]
  exact char.utf8Size_pos

theorem encodeChar_of_lt {char : Char} (small : char.toNat < 0x80) :
    String.utf8EncodeChar char = [UInt8.ofNat char.toNat] := by
  have bound : char.val.toNat ≤ 0x7f := Nat.le_of_lt_succ small
  unfold String.utf8EncodeChar
  exact if_pos bound

/-- No octet of a character beyond 127 is the octet of a character up to 127. -/
theorem le_of_mem_encodeChar {char : Char} (wide : 0x80 ≤ char.toNat) {byte : UInt8}
    (member : byte ∈ String.utf8EncodeChar char) : 0x80 ≤ byte.toNat := by
  have bound : ¬ char.val.toNat ≤ 0x7f := by
    have : 0x80 ≤ char.val.toNat := wide
    omega
  unfold String.utf8EncodeChar at member
  simp only [bound, if_false] at member
  split at member
  · simp only [List.mem_cons, List.not_mem_nil, or_false] at member
    rcases member with rfl | rfl <;> rw [UInt8.toNat_ofNat'] <;> omega
  · split at member
    · simp only [List.mem_cons, List.not_mem_nil, or_false] at member
      rcases member with rfl | rfl | rfl <;> rw [UInt8.toNat_ofNat'] <;> omega
    · simp only [List.mem_cons, List.not_mem_nil, or_false] at member
      rcases member with rfl | rfl | rfl | rfl <;> rw [UInt8.toNat_ofNat'] <;> omega

/-- An octet below 128 stands only for the character of that code. -/
theorem toNat_eq_of_mem_encodeChar {char : Char} {byte : UInt8}
    (member : byte ∈ String.utf8EncodeChar char) (small : byte.toNat < 0x80) :
    char.toNat = byte.toNat := by
  by_cases wide : 0x80 ≤ char.toNat
  · exact absurd (le_of_mem_encodeChar wide member) (Nat.not_le.mpr small)
  · rw [encodeChar_of_lt (Nat.not_le.mp wide), List.mem_singleton] at member
    rw [member, UInt8.toNat_ofNat']
    omega

end TreeWatch.Utf8
