import DiagnosticReport.Json.Read
import DiagnosticReport.Json.Write

/-!
# Strings and their texts

A written string is read back (`readString?_escaped`). Each character is
written on its own: as itself, behind a backslash as a letter, or, for the
control characters that have no letter, with the four digits of its code. It is
read as one unit (`unitOf`), and no code that is written is half of a pair.
-/

set_option autoImplicit false

namespace DiagnosticReport.Json

/-! ## One character -/

/-- A character that is written with the digits of its code. -/
def IsCoded (character : Char) : Prop :=
  character.toNat < 0x20 ∧ character ≠ '\x08' ∧ character ≠ '\x0c' ∧ character ≠ '\n' ∧
    character ≠ '\r' ∧ character ≠ '\t'

instance (character : Char) : Decidable (IsCoded character) :=
  inferInstanceAs (Decidable (_ ∧ _))

/-- What a written character is read as. -/
def unitOf (character : Char) : StringUnit :=
  if IsCoded character then .code character.toNat else .literal character

/-- The three ways in which a character is written. -/
theorem escapeCharacter_cases (character : Char) :
    (∃ letter ∈ ['"', '\\', 'b', 'f', 'n', 'r', 't'],
      shortEscape? letter = some character ∧ unitOf character = .literal character ∧
        escapeCharacter character = ['\\', letter]) ∨
    (IsCoded character ∧ escapeCharacter character =
      ['\\', 'u', '0', '0', hexDigit (character.toNat / 16), hexDigit (character.toNat % 16)]) ∨
    (¬ character.toNat < 0x20 ∧ character ≠ '"' ∧ character ≠ '\\' ∧
      escapeCharacter character = [character]) := by
  by_cases short : character ∈ ['"', '\\', '\x08', '\x0c', '\n', '\r', '\t']
  · simp only [List.mem_cons, List.not_mem_nil, or_false] at short
    left
    rcases short with rfl | rfl | rfl | rfl | rfl | rfl | rfl
    · exact ⟨'"', by simp, rfl, rfl, rfl⟩
    · exact ⟨'\\', by simp, rfl, rfl, rfl⟩
    · exact ⟨'b', by simp, rfl, rfl, rfl⟩
    · exact ⟨'f', by simp, rfl, rfl, rfl⟩
    · exact ⟨'n', by simp, rfl, rfl, rfl⟩
    · exact ⟨'r', by simp, rfl, rfl, rfl⟩
    · exact ⟨'t', by simp, rfl, rfl, rfl⟩
  · simp only [List.mem_cons, List.not_mem_nil, or_false, not_or] at short
    obtain ⟨quote, backslash, backspace, formFeed, lineFeed, carriage, tab⟩ := short
    by_cases control : character.toNat < 0x20
    · refine .inr (.inl ⟨⟨control, backspace, formFeed, lineFeed, carriage, tab⟩, ?_⟩)
      simp [escapeCharacter, quote, backslash, backspace, formFeed, lineFeed, carriage, tab, control]
    · refine .inr (.inr ⟨control, quote, backslash, ?_⟩)
      simp [escapeCharacter, quote, backslash, backspace, formFeed, lineFeed, carriage, tab, control]

theorem hexCode?_hexDigit {code : Nat} (small : code < 0x20) :
    hexCode? '0' '0' (hexDigit (code / 16)) (hexDigit (code % 16)) = some code := by
  have all : ∀ value : Fin 0x20,
      hexCode? '0' '0' (hexDigit (value.val / 16)) (hexDigit (value.val % 16)) =
        some value.val := by
    decide
  exact all ⟨code, small⟩

/-- A letter behind a backslash is read as one character. -/
theorem readUnits?_shortEscape {letter character : Char}
    (short : shortEscape? letter = some character) (notCode : letter ≠ 'u') (rest : List Char) :
    readUnits? ('\\' :: letter :: rest) =
      (readUnits? rest).map fun read => (.literal character :: read.1, read.2) := by
  rw [readUnits?, short]
  · cases readUnits? rest with
    | none => rfl
    | some read => rfl
  · intro _ _ _ _ _ isCode
    exact absurd isCode notCode

/-- Four digits are read as their code. -/
theorem readUnits?_code {first second third fourth : Char} {code : Nat}
    (value : hexCode? first second third fourth = some code) (rest : List Char) :
    readUnits? ('\\' :: 'u' :: first :: second :: third :: fourth :: rest) =
      (readUnits? rest).map fun read => (.code code :: read.1, read.2) := by
  rw [readUnits?, value]
  cases readUnits? rest with
  | none => rfl
  | some read => rfl

/-- Any other character that is no control character is read as itself. -/
theorem readUnits?_literal {character : Char} (notControl : ¬ character.toNat < 0x20)
    (notQuote : character ≠ '"') (notBackslash : character ≠ '\\') (rest : List Char) :
    readUnits? (character :: rest) =
      (readUnits? rest).map fun read => (.literal character :: read.1, read.2) := by
  rw [readUnits?]
  · rw [if_neg (by simp [notControl, notBackslash])]
    cases readUnits? rest with
    | none => rfl
    | some read => rfl
  · exact notQuote
  · intro _ _ _ _ _ backslash
    exact absurd backslash notBackslash
  · intro _ _ backslash
    exact absurd backslash notBackslash

/-- A written character is read as its unit. -/
theorem readUnits?_escapeCharacter (character : Char) (rest : List Char) :
    readUnits? (escapeCharacter character ++ rest) =
      (readUnits? rest).map fun read => (unitOf character :: read.1, read.2) := by
  rcases escapeCharacter_cases character with ⟨letter, listed, short, unit, written⟩ |
    ⟨coded, written⟩ | ⟨notControl, notQuote, notBackslash, written⟩
  · have notCode : letter ≠ 'u' := by
      rintro rfl
      exact absurd listed (by decide)
    rw [written, unit]
    exact readUnits?_shortEscape short notCode rest
  · rw [written, unitOf, if_pos coded]
    exact readUnits?_code (hexCode?_hexDigit coded.1) rest
  · rw [written, unitOf, if_neg fun coded => notControl coded.1]
    exact readUnits?_literal notControl notQuote notBackslash rest

/-! ## A whole string -/

theorem readUnits?_flatMap_escapeCharacter (text rest : List Char) :
    readUnits? (text.flatMap escapeCharacter ++ '"' :: rest) = some (text.map unitOf, rest) := by
  induction text with
  | nil => rfl
  | cons character text ih =>
      rw [List.flatMap_cons, List.append_assoc, readUnits?_escapeCharacter, ih]
      rfl

/-- A unit that was written denotes its character, whatever follows it. -/
theorem charactersOfUnits?_unitOf (character : Char) (units : List StringUnit) :
    charactersOfUnits? (unitOf character :: units) =
      (charactersOfUnits? units).map (character :: ·) := by
  by_cases coded : IsCoded character
  · have small := coded.1
    have notHigh : isHighSurrogate character.toNat = false := by
      rw [isHighSurrogate, Bool.and_eq_false_iff, decide_eq_false_iff_not]
      omega
    have notLow : isLowSurrogate character.toNat = false := by
      rw [isLowSurrogate, Bool.and_eq_false_iff, decide_eq_false_iff_not]
      omega
    rw [unitOf, if_pos coded]
    cases units with
    | nil => simp [charactersOfUnits?, notHigh, notLow, Char.ofNat_toNat]
    | cons unit units =>
        cases unit <;> simp [charactersOfUnits?, notHigh, notLow, Char.ofNat_toNat]
  · rw [unitOf, if_neg coded, charactersOfUnits?]

theorem charactersOfUnits?_map_unitOf (text : List Char) :
    charactersOfUnits? (text.map unitOf) = some text := by
  induction text with
  | nil => rfl
  | cons character text ih => rw [List.map_cons, charactersOfUnits?_unitOf, ih, Option.map_some]

/-- **A written string is read back.** -/
theorem readString?_escaped (text : String) (rest : List Char) :
    readString? (text.toList.flatMap escapeCharacter ++ '"' :: rest) = some (some text, rest) := by
  rw [readString?, readUnits?_flatMap_escapeCharacter]
  simp only [Option.bind_eq_bind, Option.bind_some, charactersOfUnits?_map_unitOf, Option.map_some,
    String.ofList_toList]
  rfl

end DiagnosticReport.Json
