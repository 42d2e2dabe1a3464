import DiagnosticReport.Text.Utf8

/-!
# What is encoded is decoded

The machine that reads bytes gives back the characters that were encoded
(`decode?_encode`). The first byte of a character leaves it waiting for the bytes
that follow, of which the next one has bounds of its own (`Awaits`), and each of
these adds its six bits. A byte of ASCII stands for its own character wherever it is
found (`toNat_of_mem_encodeCharacter`).
-/

set_option autoImplicit false

namespace DiagnosticReport.Text.Utf8

theorem toNat_ofNat_of_lt {code : Nat} (small : code < 0x100) : (UInt8.ofNat code).toNat = code :=
  UInt8.toNat_ofNat_of_lt' small

/-! ## The bytes that follow the first one -/

section Following

variable {pending : Pending} {byte : UInt8} {part : Nat} (code : byte.toNat = 0x80 + part)
  (least : pending.least ≤ 0x80 + part) (greatest : 0x80 + part ≤ pending.greatest)
include code least greatest

/-- A byte within the bounds adds its six bits. -/
theorem decodeFrom_continue (owed : 1 < pending.owed) (rest : List UInt8) :
    decodeFrom (some pending) (byte :: rest) =
      decodeFrom (some { owed := pending.owed - 1, value := pending.value * 0x40 + part })
        rest := by
  simp [decodeFrom, continueCharacter, code, least, greatest, Nat.not_le.mpr owed]

/-- The last byte completes the character. -/
theorem decodeFrom_complete (owed : pending.owed = 1) (rest : List UInt8) :
    decodeFrom (some pending) (byte :: rest) =
      some (Char.ofNat (pending.value * 0x40 + part)) :: decodeFrom none rest := by
  simp [decodeFrom, continueCharacter, code, least, greatest, owed]

end Following

/-! ## The first byte -/

/-- Behind this byte the machine waits for `owed` more, the next of which may carry
the six bits `part`. -/
def Awaits (byte : UInt8) (owed value part : Nat) : Prop :=
  ∃ least greatest, startCharacter byte = ([], some ⟨owed, least, greatest, value⟩) ∧
    least ≤ 0x80 + part ∧ 0x80 + part ≤ greatest

section First

variable {byte : UInt8} {value part : Nat} (small : part < 0x40)
include small

theorem awaits_one (code : byte.toNat = 0xC0 + value) (lower : 2 ≤ value)
    (upper : value < 0x20) : Awaits byte 1 value part := by
  refine ⟨0x80, 0xBF, ?_, by omega, by omega⟩
  simp only [startCharacter, code, Bool.and_eq_true, decide_eq_true_eq]
  rw [if_neg (by omega), if_pos (by omega), Nat.add_sub_cancel_left]

/-- Three bytes hold neither what two can hold nor a surrogate. -/
theorem awaits_two (code : byte.toNat = 0xE0 + value) (upper : value < 0x10)
    (notShorter : value = 0 → 0x20 ≤ part) (notSurrogate : value = 0xD → part < 0x20) :
    Awaits byte 2 value part := by
  simp only [Awaits, startCharacter, code, Bool.and_eq_true, decide_eq_true_eq, beq_iff_eq]
  rw [if_neg (by omega), if_neg (by omega)]
  by_cases zero : value = 0
  · subst zero
    exact ⟨0xA0, 0xBF, rfl, by omega, by omega⟩
  · rw [if_neg (by omega)]
    by_cases surrogate : value = 0xD
    · subst surrogate
      exact ⟨0x80, 0x9F, rfl, by omega, by omega⟩
    · rw [if_neg (by omega), if_pos (by omega), Nat.add_sub_cancel_left]
      exact ⟨0x80, 0xBF, rfl, by omega, by omega⟩

/-- Four bytes hold neither what three can hold nor a code behind the last one. -/
theorem awaits_three (code : byte.toNat = 0xF0 + value) (upper : value ≤ 4)
    (notShorter : value = 0 → 0x10 ≤ part) (notGreater : value = 4 → part < 0x10) :
    Awaits byte 3 value part := by
  simp only [Awaits, startCharacter, code, Bool.and_eq_true, decide_eq_true_eq, beq_iff_eq]
  rw [if_neg (by omega), if_neg (by omega), if_neg (by omega), if_neg (by omega),
    if_neg (by omega)]
  by_cases zero : value = 0
  · subst zero
    exact ⟨0x90, 0xBF, rfl, by omega, by omega⟩
  · rw [if_neg (by omega)]
    by_cases last : value = 4
    · subst last
      exact ⟨0x80, 0x8F, rfl, by omega, by omega⟩
    · rw [if_pos (by omega), Nat.add_sub_cancel_left]
      exact ⟨0x80, 0xBF, rfl, by omega, by omega⟩

end First

/-! ## Characters and texts -/

section Awaited

variable {first next : UInt8} {value part : Nat} (code : next.toNat = 0x80 + part)
include code

theorem decodeFrom_awaits_last (awaits : Awaits first 1 value part) (rest : List UInt8) :
    decodeFrom none (first :: next :: rest) =
      some (Char.ofNat (value * 0x40 + part)) :: decodeFrom none rest := by
  obtain ⟨least, greatest, start, lower, upper⟩ := awaits
  rw [decodeFrom, start]
  exact decodeFrom_complete code lower upper rfl rest

theorem decodeFrom_awaits_more {owed : Nat} (awaits : Awaits first (owed + 2) value part)
    (rest : List UInt8) :
    decodeFrom none (first :: next :: rest) =
      decodeFrom (some { owed := owed + 1, value := value * 0x40 + part }) rest := by
  obtain ⟨least, greatest, start, lower, upper⟩ := awaits
  rw [decodeFrom, start]
  exact decodeFrom_continue code lower upper (by simp) rest

end Awaited

theorem decodeFrom_encodeCharacter (character : Char) (rest : List UInt8) :
    decodeFrom none (encodeCharacter character ++ rest) =
      some character :: decodeFrom none rest := by
  have valid : character.toNat < 0xD800 ∨
      0xDFFF < character.toNat ∧ character.toNat < 0x110000 := character.valid
  have same : some character = some (Char.ofNat character.toNat) := by rw [Char.ofNat_toNat]
  rw [same, encodeCharacter]
  generalize character.toNat = code at valid
  have six (part : Nat) : part % 0x40 < 0x40 := Nat.mod_lt _ (by decide)
  have byte (lead part : Nat) (small : lead + part < 0x100) :
      (UInt8.ofNat (lead + part)).toNat = lead + part := toNat_ofNat_of_lt small
  -- One case for each number of bytes.
  by_cases one : code < 0x80
  · have plain : (UInt8.ofNat code).toNat = code := toNat_ofNat_of_lt (by omega)
    rw [if_pos one, List.singleton_append, decodeFrom]
    simp only [startCharacter, plain, if_pos one]
    rfl
  rw [if_neg one]
  have last := byte 0x80 (code % 0x40) (by omega)
  by_cases two : code < 0x800
  · have awaits := awaits_one (six code) (byte 0xC0 (code / 0x40) (by omega)) (by omega) (by omega)
    rw [if_pos two, List.cons_append, List.singleton_append, decodeFrom_awaits_last last awaits,
      Nat.div_add_mod']
  rw [if_neg two]
  have middle := byte 0x80 (code / 0x40 % 0x40) (by omega)
  by_cases three : code < 0x10000
  · have awaits := awaits_two (six (code / 0x40)) (byte 0xE0 (code / 0x1000) (by omega))
      (by omega) (by omega) (by omega)
    have value : (code / 0x1000 * 0x40 + code / 0x40 % 0x40) * 0x40 + code % 0x40 = code := by
      omega
    rw [if_pos three, List.cons_append, List.cons_append, List.singleton_append,
      decodeFrom_awaits_more middle awaits, decodeFrom_complete last (by simp) (by simp; omega) rfl,
      value]
  · have awaits := awaits_three (six (code / 0x1000)) (byte 0xF0 (code / 0x40000) (by omega))
      (by omega) (by omega) (by omega)
    have second := byte 0x80 (code / 0x1000 % 0x40) (by omega)
    have value : ((code / 0x40000 * 0x40 + code / 0x1000 % 0x40) * 0x40 + code / 0x40 % 0x40) *
        0x40 + code % 0x40 = code := by omega
    rw [if_neg three, List.cons_append, List.cons_append, List.cons_append,
      List.singleton_append, decodeFrom_awaits_more second awaits,
      decodeFrom_continue middle (by simp) (by simp; omega) (by simp),
      decodeFrom_complete last (by simp) (by simp; omega) rfl, value]

theorem decodeFrom_encode (text : List Char) : decodeFrom none (encode text) = text.map some := by
  induction text with
  | nil => rfl
  | cons character text ih =>
      rw [encode, List.flatMap_cons, decodeFrom_encodeCharacter, ← encode, ih, List.map_cons]

/-- **What is encoded is decoded.** -/
theorem decode?_encode (text : List Char) : decode? (encode text) = some text := by
  rw [decode?, decodeFrom_encode, List.mapM_map]
  simpa using List.mapM_pure (m := Option) (l := text) (f := id)

theorem decodeLossy_encode (text : List Char) : decodeLossy (encode text) = text := by
  rw [decodeLossy, decodeFrom_encode, List.map_map]
  exact List.map_id text

theorem encode_injective {text other : List Char} (same : encode text = encode other) :
    text = other := by
  have decoded := decode?_encode text
  rw [same, decode?_encode] at decoded
  exact (Option.some.inj decoded).symm

/-! ## Bytes of ASCII -/

theorem encode_append (text other : List Char) :
    encode (text ++ other) = encode text ++ encode other := List.flatMap_append

theorem encodeCharacter_of_ascii {character : Char} (ascii : character.toNat < 0x80) :
    encodeCharacter character = [.ofNat character.toNat] := if_pos ascii

theorem encodeCharacter_ne_nil (character : Char) : encodeCharacter character ≠ [] := by
  intro empty
  have same : encode [character] = encode [] := by simp [encode, empty]
  cases encode_injective same

/-- A byte of ASCII encodes its own character and is part of no other. -/
theorem toNat_of_mem_encodeCharacter {character : Char} {byte : UInt8}
    (member : byte ∈ encodeCharacter character) (ascii : byte.toNat < 0x80) :
    character.toNat = byte.toNat := by
  have valid : character.toNat < 0xD800 ∨
      0xDFFF < character.toNat ∧ character.toNat < 0x110000 := character.valid
  -- All other bytes of characters are set off by their highest bit.
  have high (lead part : Nat) (set : 0x80 ≤ lead) (small : lead + part < 0x100) :
      byte ≠ UInt8.ofNat (lead + part) := by
    rintro rfl
    rw [toNat_ofNat_of_lt small] at ascii
    omega
  rw [encodeCharacter] at member
  split at member
  · rename_i plain
    rw [List.mem_singleton.mp member, toNat_ofNat_of_lt (by omega)]
  · split at member
    · simp only [List.mem_cons, List.not_mem_nil, or_false] at member
      rcases member with first | last
      · exact absurd first (high _ _ (by omega) (by omega))
      · exact absurd last (high _ _ (by omega) (by omega))
    · split at member
      · simp only [List.mem_cons, List.not_mem_nil, or_false] at member
        rcases member with first | middle | last
        · exact absurd first (high _ _ (by omega) (by omega))
        · exact absurd middle (high _ _ (by omega) (by omega))
        · exact absurd last (high _ _ (by omega) (by omega))
      · simp only [List.mem_cons, List.not_mem_nil, or_false] at member
        rcases member with first | second | third | last
        · exact absurd first (high _ _ (by omega) (by omega))
        · exact absurd second (high _ _ (by omega) (by omega))
        · exact absurd third (high _ _ (by omega) (by omega))
        · exact absurd last (high _ _ (by omega) (by omega))

/-- A text whose bytes end in one of ASCII ends in its character. -/
theorem exists_of_encode_eq_concat {text : List Char} {bytes : List UInt8} {byte : UInt8}
    (encoded : encode text = bytes ++ [byte]) (ascii : byte.toNat < 0x80) :
    ∃ before, text = before ++ [Char.ofNat byte.toNat] ∧ encode before = bytes := by
  rcases List.eq_nil_or_concat text with rfl | ⟨before, last, rfl⟩
  · simp [encode] at encoded
  · have alone : encode [last] = encodeCharacter last := by simp [encode]
    rw [List.concat_eq_append, encode_append, alone] at encoded
    have member : byte ∈ encodeCharacter last := by
      obtain ⟨front, final, parts⟩ := (List.eq_nil_or_concat (encodeCharacter last)).resolve_left
        (encodeCharacter_ne_nil last)
      rw [List.concat_eq_append] at parts
      rw [parts, ← List.append_assoc] at encoded
      simp [parts, (List.append_inj' encoded rfl).2]
    have code : last.toNat = byte.toNat := toNat_of_mem_encodeCharacter member ascii
    rw [encodeCharacter_of_ascii (code ▸ ascii), code, UInt8.ofNat_toNat] at encoded
    refine ⟨before, ?_, (List.append_inj' encoded rfl).1⟩
    rw [List.concat_eq_append, ← code, Char.ofNat_toNat]

end DiagnosticReport.Text.Utf8
