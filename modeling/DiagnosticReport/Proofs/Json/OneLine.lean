import DiagnosticReport.Proofs.Decimal
import DiagnosticReport.Proofs.Json.StringText

/-!
# Compact texts stand on one line

The compact text of a value holds no control character, line feeds included,
whatever characters its strings and names hold (`noControl_write`): in a string
every control character is escaped, and nothing is put between the parts of a
value but brackets, commas and colons.
-/

set_option autoImplicit false

namespace DiagnosticReport.Json

/-- No character of a text is a control character. -/
def NoControl (text : List Char) : Prop := ∀ character ∈ text, 0x20 ≤ character.toNat

theorem NoControl.lineFeed_notMem {text : List Char} (noControl : NoControl text) :
    '\n' ∉ text := by
  intro member
  exact absurd (noControl '\n' member) (by decide)

theorem noControl_append_iff {text more : List Char} :
    NoControl (text ++ more) ↔ NoControl text ∧ NoControl more := List.forall_mem_append

theorem noControl_cons_iff {character : Char} {text : List Char} :
    NoControl (character :: text) ↔ 0x20 ≤ character.toNat ∧ NoControl text :=
  List.forall_mem_cons

theorem noControl_nil : NoControl [] := by simp [NoControl]

/-! ## Strings and numbers -/

theorem noControl_hexDigit {value : Nat} (small : value < 0x10) :
    0x20 ≤ (hexDigit value).toNat := by
  have all : ∀ value : Fin 0x10, 0x20 ≤ (hexDigit value.val).toNat := by decide
  exact all ⟨value, small⟩

theorem noControl_escapeCharacter (character : Char) : NoControl (escapeCharacter character) := by
  rcases escapeCharacter_cases character with ⟨letter, listed, -, -, written⟩ | ⟨coded, written⟩ |
    ⟨notControl, -, -, written⟩
  · have all : ∀ letter ∈ ['"', '\\', 'b', 'f', 'n', 'r', 't'], 0x20 ≤ letter.toNat := by simp
    rw [written, noControl_cons_iff, noControl_cons_iff]
    exact ⟨by decide, all letter listed, noControl_nil⟩
  · have small := coded.1
    simp only [written, noControl_cons_iff]
    exact ⟨by decide, by decide, by decide, by decide, noControl_hexDigit (by omega),
      noControl_hexDigit (by omega), noControl_nil⟩
  · rw [written, noControl_cons_iff]
    exact ⟨Nat.le_of_not_lt notControl, noControl_nil⟩

theorem noControl_writeString (text : String) : NoControl (writeString text) := by
  rw [writeString, noControl_cons_iff, noControl_append_iff]
  refine ⟨by decide, ?_, by simp [NoControl]⟩
  intro character member
  obtain ⟨original, -, written⟩ := List.mem_flatMap.mp member
  exact noControl_escapeCharacter original character written

theorem noControl_integer (value : Int) : NoControl (toString value).toList := by
  have digits (number : Nat) : NoControl (Nat.toDigits 10 number) := by
    intro character member
    have digit := Decimal.isDigit_of_mem_toDigits member
    simp only [Char.isDigit, Bool.and_eq_true, decide_eq_true_eq] at digit
    have zero : '0'.toNat ≤ character.toNat := digit.1
    exact Nat.le_trans (by decide) zero
  rw [Int.toString_eq_repr, Int.repr_eq_if]
  split
  · rw [Nat.repr_eq_ofList_toDigits, String.toList_ofList]
    exact digits _
  · rw [String.toList_append, Nat.repr_eq_ofList_toDigits, @String.toList_ofList (Nat.toDigits _ _)]
    exact noControl_append_iff.mpr ⟨by simp [NoControl], digits _⟩

theorem noControl_number (value : Number) : NoControl value.write := by
  cases value with
  | integer value => exact noControl_integer value
  | inexact finite => simp [Number.write, NoControl]

/-! ## Values -/

mutual

/-- **The compact text of a value holds no control character.** -/
theorem noControl_write : (value : Json) → NoControl value.write
  | .null => by simp [write, NoControl]
  | .bool true => by simp [write, NoControl]
  | .bool false => by simp [write, NoControl]
  | .number value => by
      rw [write]
      exact noControl_number value
  | .string value => by
      rw [write]
      exact noControl_writeString value
  | .unpaired => by
      rw [write]
      exact noControl_writeString ""
  | .array items => by
      rw [write, noControl_cons_iff, noControl_append_iff]
      exact ⟨by decide, noControl_writeItems items, by simp [NoControl]⟩
  | .object members => by
      rw [write, noControl_cons_iff, noControl_append_iff]
      exact ⟨by decide, noControl_writeMembers members, by simp [NoControl]⟩

theorem noControl_writeItems : (items : List Json) → NoControl (writeItems items)
  | [] => by
      rw [writeItems]
      exact noControl_nil
  | [item] => by
      rw [writeItems]
      exact noControl_write item
  | item :: next :: items => by
      rw [writeItems, noControl_append_iff, noControl_cons_iff]
      · exact ⟨noControl_write item, by decide, noControl_writeItems (next :: items)⟩
      · simp

theorem noControl_writeMembers :
    (members : List (Option String × Json)) → NoControl (writeMembers members)
  | [] => by
      rw [writeMembers]
      exact noControl_nil
  | [(name, value)] => by
      rw [writeMembers, noControl_append_iff, noControl_cons_iff]
      exact ⟨noControl_writeString _, by decide, noControl_write value⟩
  | (name, value) :: next :: members => by
      rw [writeMembers, noControl_append_iff, noControl_cons_iff, noControl_append_iff,
        noControl_cons_iff]
      · exact ⟨noControl_writeString _, by decide, noControl_write value, by decide,
          noControl_writeMembers (next :: members)⟩
      · simp

end

end DiagnosticReport.Json
