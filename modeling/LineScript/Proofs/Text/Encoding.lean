import LineScript.Text.Utf8

/-!
Reading back what was encoded. The bytes of a character are taken for that character, whatever comes
after them, so the bytes of a text are read as the text.
-/

namespace LineScript.Text.Utf8

variable {position bits low high : Nat} {byte : UInt8} {bytes rest : List UInt8} {next : Nat × Nat}
  {owed : List (Nat × Nat)}

theorem decodeFrom_single (first : firstByte byte.toNat = some (bits, [])) :
    decodeFrom position .idle (byte :: rest) =
      (Char.ofNat bits :: ·) <$> decodeFrom (position + 1) .idle rest := by
  rw [decodeFrom, Pending.idle]
  simp only [first]

theorem decodeFrom_first (first : firstByte byte.toNat = some (bits, next :: owed)) :
    decodeFrom position .idle (byte :: rest) =
      decodeFrom (position + 1) ⟨[byte], bits, next :: owed⟩ rest := by
  rw [decodeFrom, Pending.idle]
  simp only [first]

theorem decodeFrom_next (least : low ≤ byte.toNat) (most : byte.toNat ≤ high) :
    decodeFrom position ⟨bytes, bits, (low, high) :: next :: owed⟩ (byte :: rest) =
      decodeFrom (position + 1) ⟨byte :: bytes, 64 * bits + (byte.toNat - 0x80), next :: owed⟩
        rest := by
  simp [decodeFrom, least, most]

theorem decodeFrom_last (least : low ≤ byte.toNat) (most : byte.toNat ≤ high) :
    decodeFrom position ⟨bytes, bits, [(low, high)]⟩ (byte :: rest) =
      (Char.ofNat (64 * bits + (byte.toNat - 0x80)) :: ·) <$> decodeFrom (position + 1) .idle
        rest := by
  simp [decodeFrom, least, most]

/-- The bounds of the second of three bytes admit all characters that need three. -/
theorem firstByte_of_three {point : Nat} (large : 0x7FF < point)
    (valid : point < 0xD800 ∨ 0xDFFF < point ∧ point ≤ 0xFFFF) :
    ∃ low high, firstByte (point / 4096 + 224) = some (point / 4096, [(low, high), (0x80, 0xBF)]) ∧
      low ≤ point / 64 % 64 + 128 ∧ point / 64 % 64 + 128 ≤ high := by
  by_cases overlong : point / 4096 = 0
  · rw [overlong]
    exact ⟨0xA0, 0xBF, rfl, by omega, by omega⟩
  by_cases surrogate : point / 4096 = 0xD
  · rw [surrogate]
    exact ⟨0x80, 0x9F, rfl, by omega, by omega⟩
  refine ⟨0x80, 0xBF, ?_, by omega, by omega⟩
  rw [firstByte, if_neg (by omega), if_neg (by omega), if_neg (by omega), if_neg (by omega),
    if_neg (by omega), if_pos (by omega), Nat.add_sub_cancel]

/-- The bounds of the second of four bytes admit all characters that need four. -/
theorem firstByte_of_four {point : Nat} (large : 0xFFFF < point) (valid : point < 0x110000) :
    ∃ low high, firstByte (point / 262144 + 240) =
        some (point / 262144, [(low, high), (0x80, 0xBF), (0x80, 0xBF)]) ∧
      low ≤ point / 4096 % 64 + 128 ∧ point / 4096 % 64 + 128 ≤ high := by
  by_cases overlong : point / 262144 = 0
  · rw [overlong]
    exact ⟨0x90, 0xBF, rfl, by omega, by omega⟩
  by_cases beyond : point / 262144 = 4
  · rw [beyond]
    exact ⟨0x80, 0x8F, rfl, by omega, by omega⟩
  refine ⟨0x80, 0xBF, ?_, by omega, by omega⟩
  rw [firstByte, if_neg (by omega), if_neg (by omega), if_neg (by omega), if_neg (by omega),
    if_neg (by omega), if_neg (by omega), if_neg (by omega), if_pos (by omega), Nat.add_sub_cancel]

private theorem toNat_byte {value : Nat} (small : value < 256) :
    (UInt8.ofNat value).toNat = value :=
  UInt8.toNat_ofNat_of_lt' small

section Lengths

variable {point : Nat}

theorem decodeFrom_one (small : point ≤ 0x7F) :
    decodeFrom position .idle (UInt8.ofNat point :: rest) =
      (Char.ofNat point :: ·) <$> decodeFrom (position + 1) .idle rest := by
  refine decodeFrom_single ?_
  rw [toNat_byte (by omega), firstByte, if_pos (by omega)]

theorem decodeFrom_two (large : 0x7F < point) (small : point ≤ 0x7FF) :
    decodeFrom position .idle
        (UInt8.ofNat (point / 64 % 32 + 192) :: UInt8.ofNat (point % 64 + 128) :: rest) =
      (Char.ofNat point :: ·) <$> decodeFrom (position + 2) .idle rest := by
  have first : firstByte (UInt8.ofNat (point / 64 % 32 + 192)).toNat =
      some (point / 64, [(0x80, 0xBF)]) := by
    rw [toNat_byte (by omega), firstByte, if_neg (by omega), if_neg (by omega), if_pos (by omega),
      show point / 64 % 32 + 192 - 0xC0 = point / 64 by omega]
  have second := toNat_byte (show point % 64 + 128 < 256 by omega)
  have whole : 64 * (point / 64) + (point % 64 + 128 - 0x80) = point := by omega
  rw [decodeFrom_first first, decodeFrom_last (by omega) (by omega), second, whole]

theorem decodeFrom_three (large : 0x7FF < point)
    (valid : point < 0xD800 ∨ 0xDFFF < point ∧ point ≤ 0xFFFF) :
    decodeFrom position .idle (UInt8.ofNat (point / 4096 % 16 + 224) ::
        UInt8.ofNat (point / 64 % 64 + 128) :: UInt8.ofNat (point % 64 + 128) :: rest) =
      (Char.ofNat point :: ·) <$> decodeFrom (position + 3) .idle rest := by
  obtain ⟨low, high, bounds, least, most⟩ := firstByte_of_three large valid
  have first : firstByte (UInt8.ofNat (point / 4096 % 16 + 224)).toNat =
      some (point / 4096, [(low, high), (0x80, 0xBF)]) := by
    rw [toNat_byte (by omega), show point / 4096 % 16 = point / 4096 by omega, bounds]
  have second := toNat_byte (show point / 64 % 64 + 128 < 256 by omega)
  have third := toNat_byte (show point % 64 + 128 < 256 by omega)
  have whole : 64 * (64 * (point / 4096) + (point / 64 % 64 + 128 - 0x80)) +
      (point % 64 + 128 - 0x80) = point := by omega
  rw [decodeFrom_first first, decodeFrom_next (by omega) (by omega),
    decodeFrom_last (by omega) (by omega), second, third, whole]

theorem decodeFrom_four (large : 0xFFFF < point) (valid : point < 0x110000) :
    decodeFrom position .idle (UInt8.ofNat (point / 262144 % 8 + 240) ::
        UInt8.ofNat (point / 4096 % 64 + 128) :: UInt8.ofNat (point / 64 % 64 + 128) ::
        UInt8.ofNat (point % 64 + 128) :: rest) =
      (Char.ofNat point :: ·) <$> decodeFrom (position + 4) .idle rest := by
  obtain ⟨low, high, bounds, least, most⟩ := firstByte_of_four large valid
  have first : firstByte (UInt8.ofNat (point / 262144 % 8 + 240)).toNat =
      some (point / 262144, [(low, high), (0x80, 0xBF), (0x80, 0xBF)]) := by
    rw [toNat_byte (by omega), show point / 262144 % 8 = point / 262144 by omega, bounds]
  have second := toNat_byte (show point / 4096 % 64 + 128 < 256 by omega)
  have third := toNat_byte (show point / 64 % 64 + 128 < 256 by omega)
  have fourth := toNat_byte (show point % 64 + 128 < 256 by omega)
  have whole : 64 * (64 * (64 * (point / 262144) + (point / 4096 % 64 + 128 - 0x80)) +
      (point / 64 % 64 + 128 - 0x80)) + (point % 64 + 128 - 0x80) = point := by omega
  rw [decodeFrom_first first, decodeFrom_next (by omega) (by omega),
    decodeFrom_next (by omega) (by omega),
    decodeFrom_last (by omega) (by omega), second, third, fourth, whole]

end Lengths

/-- The bytes of a character are read as that character. -/
theorem decodeFrom_char (position : Nat) (char : Char) (rest : List UInt8) :
    decodeFrom position .idle (String.utf8EncodeChar char ++ rest) =
      (char :: ·) <$> decodeFrom (position + (String.utf8EncodeChar char).length) .idle rest := by
  have valid : char.val.toNat < 0xD800 ∨ 0xDFFF < char.val.toNat ∧ char.val.toNat < 0x110000 :=
    char.valid
  have whole : Char.ofNat char.val.toNat = char := Char.ofNat_toNat char
  simp only [String.utf8EncodeChar]
  split
  · exact (decodeFrom_one ‹_›).trans (by rw [whole]; rfl)
  split
  · exact (decodeFrom_two (by omega) ‹_›).trans (by rw [whole]; rfl)
  split
  · exact (decodeFrom_three (by omega) (by omega)).trans (by rw [whole]; rfl)
  · exact (decodeFrom_four (by omega) (by omega)).trans (by rw [whole]; rfl)

/-- What a text is encoded as is read as that text. -/
theorem decode_encoded (text : List Char) :
    decode (text.flatMap String.utf8EncodeChar) = .ok text := by
  have anywhere (position : Nat) :
      decodeFrom position .idle (text.flatMap String.utf8EncodeChar) = .ok text := by
    induction text generalizing position with
    | nil => rfl
    | cons char rest ih =>
      rw [List.flatMap_cons, decodeFrom_char, ih]
      rfl
  exact anywhere 0

theorem decode_toUTF8 {text : String} (encoded : bytes.toByteArray = text.toUTF8) :
    decode bytes = .ok text.toList := by
  have same : bytes.toByteArray = (text.toList.flatMap String.utf8EncodeChar).toByteArray :=
    encoded.trans String.utf8Encode_toList.symm
  have listed := congrArg (fun array : ByteArray => array.data.toList) same
  simp only [List.data_toByteArray, List.toList_toArray] at listed
  rw [listed, decode_encoded]

end LineScript.Text.Utf8
