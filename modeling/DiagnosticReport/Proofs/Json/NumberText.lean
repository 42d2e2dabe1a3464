import DiagnosticReport.Json.Read
import DiagnosticReport.Json.Write
import DiagnosticReport.Proofs.Decimal
import Mathlib.Data.List.TakeDrop

/-!
# Whole numbers and their texts

A written whole number is read back, if what follows it cannot go on with the
number (`readNumber?_integer`). Its digits have no leading zero, so the reader
takes all of them, and it finds neither a point nor an exponent behind them.
-/

set_option autoImplicit false

namespace DiagnosticReport.Json

open DiagnosticReport.Decimal

/-- A text that does not go on with a number in front of it. -/
def EndsNumber (rest : List Char) : Prop :=
  ∀ character others, rest = character :: others →
    character.isDigit = false ∧ character ≠ '.' ∧ character ≠ 'e' ∧ character ≠ 'E'

variable {rest : List Char}

theorem endsNumber_nil : EndsNumber [] := by
  intro character others impossible
  cases impossible

theorem endsNumber_cons {character : Char} (notDigit : character.isDigit = false)
    (others : character ≠ '.' ∧ character ≠ 'e' ∧ character ≠ 'E') (text : List Char) :
    EndsNumber (character :: text) := by
  intro first more same
  obtain ⟨rfl, rfl⟩ := List.cons.inj same
  exact ⟨notDigit, others⟩

/-! ## The parts of a number -/

theorem spanDigits_append {digits : List Char} (all : ∀ digit ∈ digits, digit.isDigit = true)
    (ends : EndsNumber rest) : spanDigits (digits ++ rest) = (digits, rest) := by
  have stops : rest.takeWhile Char.isDigit = [] ∧ rest.dropWhile Char.isDigit = rest := by
    cases rest with
    | nil => exact ⟨rfl, rfl⟩
    | cons character others =>
        have notDigit := (ends character others rfl).1
        simp [notDigit]
  rw [spanDigits, List.span_eq_takeWhile_dropWhile, List.takeWhile_append_of_pos all,
    List.dropWhile_append_of_pos all, stops.1, stops.2, List.append_nil]

/-- Only zero has a leading zero. -/
theorem eq_zero_of_toDigits_zero {number : Nat} {digits : List Char}
    (leads : Nat.toDigits 10 number = '0' :: digits) : number = 0 := by
  induction number using Nat.strongRecOn generalizing digits with
  | ind number ih =>
      rw [Nat.toDigits_eq_if (by decide)] at leads
      split at leads
      · rename_i small
        have all : ∀ digit : Fin 10, Nat.digitChar digit.val = '0' → digit.val = 0 := by decide
        exact all ⟨number, small⟩ (List.cons.inj leads).1
      · rename_i large
        cases front : Nat.toDigits 10 (number / 10) with
        | nil => exact absurd front Nat.toDigits_ne_nil
        | cons first others =>
            rw [front, List.cons_append] at leads
            obtain ⟨rfl, -⟩ := List.cons.inj leads
            have quotient := ih (number / 10) (by omega) front
            omega

theorem readWhole?_toDigits (number : Nat) (ends : EndsNumber rest) :
    readWhole? (Nat.toDigits 10 number ++ rest) = some (Nat.toDigits 10 number, rest) := by
  rw [readWhole?, spanDigits_append (fun _ => isDigit_of_mem_toDigits) ends]
  split
  · rename_i noDigits
    exact absurd (Prod.mk.inj noDigits).1 Nat.toDigits_ne_nil
  · rename_i zero
    obtain ⟨digits, rfl⟩ := Prod.mk.inj zero
    rw [digits]
  · rename_i notAlone leads
    obtain ⟨digits, rfl⟩ := Prod.mk.inj leads
    obtain rfl := eq_zero_of_toDigits_zero digits
    exact absurd (List.cons.inj digits).2.symm notAlone
  · rename_i whole
    obtain ⟨rfl, rfl⟩ := Prod.mk.inj whole
    rfl

theorem readFraction?_of_ends (ends : EndsNumber rest) : readFraction? rest = some (none, rest) := by
  rw [readFraction?]
  rintro others rfl
  exact (ends '.' others rfl).2.1 rfl

theorem readExponent?_of_ends (ends : EndsNumber rest) : readExponent? rest = some (none, rest) := by
  rw [readExponent?]
  · rintro others rfl
    exact (ends 'e' others rfl).2.2.1 rfl
  · rintro others rfl
    exact (ends 'E' others rfl).2.2.2 rfl

/-! ## Whole numbers -/

/-- The digits of a number behind a sign are read as the number of this sign. -/
theorem readNumber?_digits {negative : Bool} {text : List Char} (number : Nat)
    (signed : readSign text = (negative, Nat.toDigits 10 number ++ rest))
    (ends : EndsNumber rest) :
    readNumber? text = some (.ofParts negative (Nat.toDigits 10 number) none none, rest) := by
  simp only [readNumber?, signed, readWhole?_toDigits number ends, readFraction?_of_ends ends,
    readExponent?_of_ends ends, Option.bind_eq_bind, Option.bind_some]
  rfl

theorem readSign_toDigits (number : Nat) :
    readSign (Nat.toDigits 10 number ++ rest) = (false, Nat.toDigits 10 number ++ rest) := by
  rw [readSign]
  intro others minus
  cases digits : Nat.toDigits 10 number with
  | nil => exact absurd digits Nat.toDigits_ne_nil
  | cons first more =>
      rw [digits, List.cons_append] at minus
      obtain ⟨rfl, -⟩ := List.cons.inj minus
      have isDigit := @isDigit_of_mem_toDigits number '-' (by rw [digits]; exact List.mem_cons_self)
      exact absurd isDigit (by decide)

/-- A written whole number starts with a sign or a digit. -/
theorem exists_cons_toString (value : Int) :
    ∃ first others, (toString value).toList = first :: others ∧
      (first = '-' ∨ first.isDigit = true) := by
  have leading (number : Nat) : ∃ first others, Nat.toDigits 10 number = first :: others ∧
      first.isDigit = true := by
    cases digits : Nat.toDigits 10 number with
    | nil => exact absurd digits Nat.toDigits_ne_nil
    | cons first others =>
        refine ⟨first, others, rfl, @isDigit_of_mem_toDigits number first ?_⟩
        rw [digits]
        exact List.mem_cons_self
  rw [Int.toString_eq_repr, Int.repr_eq_if]
  split
  · obtain ⟨first, others, digits, isDigit⟩ := leading value.toNat
    rw [Nat.repr_eq_ofList_toDigits, String.toList_ofList]
    exact ⟨first, others, digits, .inr isDigit⟩
  · rw [String.toList_append]
    exact ⟨'-', _, rfl, .inl rfl⟩

/-- **A written whole number is read back.** -/
theorem readNumber?_integer (value : Int) (ends : EndsNumber rest) :
    readNumber? ((toString value).toList ++ rest) = some (.integer value, rest) := by
  rw [Int.toString_eq_repr, Int.repr_eq_if]
  split
  · rename_i positive
    rw [Nat.repr_eq_ofList_toDigits, String.toList_ofList,
      readNumber?_digits _ (readSign_toDigits value.toNat) ends, Number.ofParts, ofDigits_toDigits,
      if_neg Bool.false_ne_true, Int.toNat_of_nonneg positive]
  · rename_i negative
    have size : ((-value).toNat : Int) = -value := Int.toNat_of_nonneg (by omega)
    rw [String.toList_append, Nat.repr_eq_ofList_toDigits, @String.toList_ofList (Nat.toDigits _ _),
      readNumber?_digits (-value).toNat rfl ends, Number.ofParts, ofDigits_toDigits, if_pos rfl,
      size, if_neg (by omega), Int.neg_neg]

end DiagnosticReport.Json
