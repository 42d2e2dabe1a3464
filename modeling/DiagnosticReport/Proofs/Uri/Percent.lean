import DiagnosticReport.Proofs.Text.Utf8
import DiagnosticReport.Uri.Percent

/-!
# Escaped texts

A text is written into a URI with an escape for every byte of it that is no slash, no
letter and no digit of ASCII (`escape`). Decoding gives the bytes of the text back
(`percentDecode_escape`). What is written holds no character that means something else in
a URI: between slashes there are only letters, digits and percent signs
(`isWritten_of_mem_escape`).
-/

set_option autoImplicit false

namespace DiagnosticReport.Uri

/-- A hexadecimal digit, with capital or with small letters. -/
def hexDigit (capital : Bool) (value : Nat) : Char :=
  if value < 10 then Char.ofNat ('0'.toNat + value)
  else Char.ofNat ((if capital then 'A' else 'a').toNat + (value - 10))

/-- Whether a byte is written as the character that it is: a slash, a letter or a digit
of ASCII. -/
def isPlain (byte : UInt8) : Bool :=
  byte < 0x80 && (byte == 0x2F || (Char.ofNat byte.toNat).isAlphanum)

/-- A byte as it is written into a URI. -/
def escapeByte (capital : Bool) (byte : UInt8) : List Char :=
  if isPlain byte then [Char.ofNat byte.toNat]
  else ['%', hexDigit capital (byte.toNat / 16), hexDigit capital (byte.toNat % 16)]

/-- A text as it is written into a URI. -/
def escape (capital : Bool) (text : List Char) : List Char :=
  (Text.Utf8.encode text).flatMap (escapeByte capital)

/-- A character that means nothing else in a URI, where an escape can stand. -/
def isWritten (character : Char) : Bool := character == '%' || character.isAlphanum

variable {capital : Bool}

theorem escape_append (text other : List Char) :
    escape capital (text ++ other) = escape capital text ++ escape capital other := by
  rw [escape, Text.Utf8.encode_append, List.flatMap_append]
  rfl

theorem escape_slash_cons (text : List Char) :
    escape capital ('/' :: text) = '/' :: escape capital text := rfl

/-- What holds of every number of a byte holds of every byte. -/
theorem forall_byte (property : UInt8 → Prop)
    (all : ∀ value : Fin 256, property (UInt8.ofNat value.val)) (byte : UInt8) : property byte := by
  have here := all ⟨byte.toNat, byte.toNat_lt⟩
  rwa [UInt8.ofNat_toNat] at here

/-! ## Written characters -/

/-- Written characters are ASCII, and neither blanks nor control characters. -/
theorem toNat_of_isWritten {character : Char} (written : isWritten character = true) :
    0x20 < character.toNat ∧ character.toNat < 0x80 := by
  rw [isWritten, Bool.or_eq_true, beq_iff_eq] at written
  rcases written with rfl | alphanumeric
  · decide
  · unfold Char.isAlphanum Char.isAlpha Char.isUpper Char.isLower Char.isDigit at alphanumeric
    simp only [Bool.or_eq_true, Bool.and_eq_true, decide_eq_true_eq, UInt32.le_iff_toNat_le]
      at alphanumeric
    simp at alphanumeric
    omega

/-- A hexadecimal digit is written, and stands for its value. -/
theorem hexDigit_reads {value : Nat} (small : value < 16) :
    isWritten (hexDigit capital value) = true ∧
      hexByteValue? (.ofNat (hexDigit capital value).toNat) = some (.ofNat value) := by
  have all : ∀ (capital : Bool) (value : Fin 16),
      isWritten (hexDigit capital value.val) = true ∧
        hexByteValue? (.ofNat (hexDigit capital value.val).toNat) = some (.ofNat value.val) := by
    decide
  exact all capital ⟨value, small⟩

/-- A plain byte is the code of its character, which is a slash or written, and starts no
escape. -/
theorem isPlain_reads {byte : UInt8} (plain : isPlain byte = true) :
    Text.Utf8.encode [Char.ofNat byte.toNat] = [byte] ∧ byte ≠ 0x25 ∧
      (byte ≠ 0x2F → isWritten (Char.ofNat byte.toNat) = true) := by
  revert plain
  refine forall_byte (fun byte => isPlain byte = true →
    Text.Utf8.encode [Char.ofNat byte.toNat] = [byte] ∧ byte ≠ 0x25 ∧
      (byte ≠ 0x2F → isWritten (Char.ofNat byte.toNat) = true)) ?_ byte
  decide +kernel

theorem isWritten_of_mem_escapeByte {byte : UInt8} (noSlash : byte ≠ 0x2F) :
    ∀ character ∈ escapeByte capital byte, isWritten character = true := by
  have high : byte.toNat / 16 < 16 := Nat.div_lt_of_lt_mul byte.toNat_lt
  have low : byte.toNat % 16 < 16 := Nat.mod_lt _ (by decide)
  rw [escapeByte]
  split
  · rename_i plain
    simpa using (isPlain_reads plain).2.2 noSlash
  · simp only [List.forall_mem_cons, List.not_mem_nil, false_implies, implies_true, and_true]
    exact ⟨by decide, (hexDigit_reads high).1, (hexDigit_reads low).1⟩

/-- **A text without slashes is written without any character that means something else.** -/
theorem isWritten_of_mem_escape {text : List Char} (noSlash : '/' ∉ text) :
    ∀ character ∈ escape capital text, isWritten character = true := by
  intro character member
  obtain ⟨byte, encoded, within⟩ := List.mem_flatMap.mp member
  refine isWritten_of_mem_escapeByte ?_ character within
  rintro rfl
  obtain ⟨letter, inText, part⟩ := List.mem_flatMap.mp encoded
  have slash : letter.toNat = '/'.toNat := Text.Utf8.toNat_of_mem_encodeCharacter part (by decide)
  exact noSlash (Char.toNat_inj.mp slash ▸ inText)

theorem lt_toNat_of_mem_escape {text : List Char} :
    ∀ character ∈ escape capital text, 0x20 < character.toNat := by
  intro character member
  obtain ⟨byte, -, within⟩ := List.mem_flatMap.mp member
  by_cases slash : byte = 0x2F
  · subst slash
    obtain rfl : character = '/' := List.mem_singleton.mp within
    decide
  · exact (toNat_of_isWritten (isWritten_of_mem_escapeByte slash character within)).1

/-! ## Decoding -/

theorem escapedByte?_hexDigit (byte : UInt8) :
    escapedByte? (.ofNat (hexDigit capital (byte.toNat / 16)).toNat)
      (.ofNat (hexDigit capital (byte.toNat % 16)).toNat) = some byte := by
  have high : byte.toNat / 16 < 16 := Nat.div_lt_of_lt_mul byte.toNat_lt
  have low : byte.toNat % 16 < 16 := Nat.mod_lt _ (by decide)
  have value : UInt8.ofNat (byte.toNat / 16) * 16 + UInt8.ofNat (byte.toNat % 16) = byte := by
    rw [← UInt8.toNat_inj]
    simp
    omega
  simp only [escapedByte?, (hexDigit_reads high).2, (hexDigit_reads low).2, Option.bind_eq_bind,
    Option.bind_some, Option.pure_def, value]

theorem percentDecodeBytes_of_ne {byte : UInt8} (noEscape : byte ≠ 0x25) (rest : List UInt8) :
    percentDecodeBytes (byte :: rest) = byte :: percentDecodeBytes rest := by
  rw [percentDecodeBytes]
  rintro high low others rfl
  exact absurd rfl noEscape

theorem percentDecodeBytes_escape {high low byte : UInt8}
    (stands : escapedByte? high low = some byte) (rest : List UInt8) :
    percentDecodeBytes (0x25 :: high :: low :: rest) = byte :: percentDecodeBytes rest := by
  rw [percentDecodeBytes, stands]

theorem percentDecodeBytes_escapeByte (byte : UInt8) (rest : List UInt8) :
    percentDecodeBytes (Text.Utf8.encode (escapeByte capital byte) ++ rest) =
      byte :: percentDecodeBytes rest := by
  have high : byte.toNat / 16 < 16 := Nat.div_lt_of_lt_mul byte.toNat_lt
  have low : byte.toNat % 16 < 16 := Nat.mod_lt _ (by decide)
  rw [escapeByte]
  split
  · rename_i plain
    obtain ⟨own, noEscape, -⟩ := isPlain_reads plain
    rw [own, List.singleton_append, percentDecodeBytes_of_ne noEscape]
  · have digit {value : Nat} (small : value < 16) :
        Text.Utf8.encodeCharacter (hexDigit capital value) =
          [.ofNat (hexDigit capital value).toNat] :=
      Text.Utf8.encodeCharacter_of_ascii (toNat_of_isWritten (hexDigit_reads small).1).2
    have bytes : Text.Utf8.encode
        ['%', hexDigit capital (byte.toNat / 16), hexDigit capital (byte.toNat % 16)] =
          [0x25, .ofNat (hexDigit capital (byte.toNat / 16)).toNat,
            .ofNat (hexDigit capital (byte.toNat % 16)).toNat] := by
      simp only [Text.Utf8.encode, List.flatMap_cons, List.flatMap_nil, digit high, digit low]
      rfl
    rw [bytes]
    exact percentDecodeBytes_escape (escapedByte?_hexDigit byte) rest

/-- **The bytes of a text are decoded from what is written of it.** -/
theorem percentDecode_escape (text : List Char) :
    percentDecode (escape capital text) = Text.Utf8.encode text := by
  have all (bytes : List UInt8) :
      percentDecodeBytes (Text.Utf8.encode (bytes.flatMap (escapeByte capital))) = bytes := by
    induction bytes with
    | nil => rfl
    | cons byte bytes ih =>
        rw [List.flatMap_cons, Text.Utf8.encode_append, percentDecodeBytes_escapeByte, ih]
  exact all (Text.Utf8.encode text)

theorem escape_ne_nil {text : List Char} (nonempty : text ≠ []) : escape capital text ≠ [] := by
  intro empty
  have decoded : percentDecode (escape capital text) = Text.Utf8.encode text :=
    percentDecode_escape text
  rw [empty] at decoded
  exact nonempty (Text.Utf8.encode_injective decoded.symm)

end DiagnosticReport.Uri
