import DiagnosticReport.Proofs.Text.LineCut
import Mathlib

/-!
# Positions of offsets

A position holds 64-bit numbers. The place of an offset below `2 ^ 63` is held
exactly, and so is the position counted from one if the next offset is below
`2 ^ 63` as well.

`ofOffset_agrees_with_splitLines` says that offsets are resolved in the same
lines that a frame shows.
-/

set_option autoImplicit false

namespace DiagnosticReport

open DiagnosticReport.Text

/-! ## Numbers that fit -/

/-- A number below `2 ^ 63` is not clamped. -/
theorem toInt_ofIntClamp_of_lt {number : Nat} (fits : number < 2 ^ 63) :
    (Int64.ofIntClamp number).toInt = number := by
  refine Int64.toInt_ofIntClamp ?_ ?_
  · have least : Int64.minValue.toInt = -2 ^ 63 := rfl
    omega
  · have greatest : Int64.maxValue.toInt = 2 ^ 63 - 1 := rfl
    omega

/-- The step to the next number is exact where that number fits. -/
theorem toInt_saturatingNext_of_lt {number : Int64} {value : Nat} (same : number.toInt = value)
    (fits : value + 1 < 2 ^ 63) : (saturatingNext number).toInt = value + 1 := by
  rw [saturatingNext, same]
  exact toInt_ofIntClamp_of_lt fits

namespace EnginePosition

/-- The numbers of a place in a text are exact. -/
theorem toInt_ofOffset {text : List Char} {offset : Nat}
    (fits : min offset text.length < 2 ^ 63) :
    (ofOffset text offset).line.toInt = (pointAt text offset).line ∧
      (ofOffset text offset).character.toInt = (pointAt text offset).column := by
  have bound := pointAt_add_le text offset
  constructor
  · exact toInt_ofIntClamp_of_lt (by omega)
  · exact toInt_ofIntClamp_of_lt (by omega)

/-- The numbers of a place counted from one are exact. -/
theorem toInt_toPosition_ofOffset {text : List Char} {offset : Nat}
    (fits : min offset text.length + 1 < 2 ^ 63) :
    (ofOffset text offset).toPosition.line.toInt = (pointAt text offset).line + 1 ∧
      (ofOffset text offset).toPosition.column.toInt = (pointAt text offset).column + 1 := by
  have bound := pointAt_add_le text offset
  obtain ⟨line, character⟩ := toInt_ofOffset (Nat.lt_of_succ_lt fits)
  constructor
  · exact toInt_saturatingNext_of_lt line (by omega)
  · exact toInt_saturatingNext_of_lt character (by omega)

/-- **Offsets are resolved in the lines of the frame.** The cut of a text at its
line breaks has the lines of `splitLines`. In this cut an offset, or the end of
the text for an offset beyond it, lies at exactly one place, which is the one it
resolves to; two offsets into the text never share a place. -/
theorem ofOffset_agrees_with_splitLines (text : List Char) (offset : Nat) :
    (∀ lines separators, Cut text lines separators ↔
      lines = splitLines text ∧ separators = separatorsOf text) ∧
    joinLines (splitLines text) (separatorsOf text) = text ∧
    (∀ point, LiesAt (splitLines text) (separatorsOf text) (min offset text.length) point ↔
      point = pointAt text offset) ∧
    (∀ other, offset ≤ text.length → other ≤ text.length →
      pointAt text offset = pointAt text other → offset = other) ∧
    (text.length < 2 ^ 63 →
      (ofOffset text offset).line.toInt = (pointAt text offset).line ∧
        (ofOffset text offset).character.toInt = (pointAt text offset).column) := by
  refine ⟨fun _ _ => cut_iff, (cut_splitLines text).joinLines_eq, fun _ => ?_, ?_, ?_⟩
  · exact pointAt_eq_iff_liesAt.symm
  · intro other offsetIn otherIn same
    exact pointAt_injective offsetIn otherIn same
  · intro fits
    exact toInt_ofOffset (Nat.lt_of_le_of_lt (Nat.min_le_right _ _) fits)

/-- The offset between the two characters of a pair, behind a carriage return
that is a line break of its own. -/
theorem ofOffset_inside_pair :
    (3 ≤ "a\r\r\nb".toList.length ∧ "a\r\r\nb".toList.length < 2 ^ 63) ∧
      (ofOffset "a\r\r\nb".toList 3).line.toInt = 1 ∧
      (ofOffset "a\r\r\nb".toList 3).character.toInt = 1 ∧
      ∀ other, other ≤ "a\r\r\nb".toList.length → pointAt "a\r\r\nb".toList other = ⟨1, 1⟩ →
        other = 3 := by
  have place := ofOffset_agrees_with_splitLines "a\r\r\nb".toList 3
  have exact_numbers := place.2.2.2.2 (by decide)
  refine ⟨by decide, exact_numbers.1, exact_numbers.2, ?_⟩
  intro other otherIn same
  exact (place.2.2.2.1 other (by decide) otherIn same.symm).symm

end EnginePosition

end DiagnosticReport
