import DiagnosticReport.Frame
import DiagnosticReport.Proofs.Text.LineCut

/-!
# The lines that a frame shows

A frame shows the lines of its window with their numbers, each once and in
ascending order (`mem_shownLines`, `shownLines_ascending`). The marker of a
shown line depends on its number and its length alone, and the gutters are as wide
as the last number (`numberWidth_shownLines`).
-/

set_option autoImplicit false

namespace DiagnosticReport.Frame

open DiagnosticReport.Text

theorem getElem?_numberLines (location : Location) (before : Nat) (lines : List (List Char))
    (index : Nat) :
    (numberLines location before lines)[index]? =
      lines[index]?.map fun text =>
        ⟨before + index + 1, text, marker? location (before + index + 1 : Nat) text.length⟩ := by
  induction lines generalizing before index with
  | nil => rfl
  | cons text lines ih =>
      cases index with
      | zero => rfl
      | succ index =>
          have shift : before + 1 + index = before + (index + 1) := by omega
          rw [numberLines, List.getElem?_cons_succ, List.getElem?_cons_succ, ih, shift]

/-- The line at a place of the window. -/
theorem getElem?_shownLines (source : List Char) (location : Location) (index : Nat) :
    (shownLines source location)[index]? =
      if linesBefore location + index < lastLine location (splitLines source).length then
        (splitLines source)[linesBefore location + index]?.map fun text =>
          ⟨linesBefore location + index + 1, text,
            marker? location (linesBefore location + index + 1 : Nat) text.length⟩
      else none := by
  rw [shownLines, getElem?_numberLines, List.getElem?_drop, List.getElem?_take]
  split
  · rfl
  · rfl

/-- **A frame shows exactly the lines of its window**, with the markers that the
location gives them. -/
theorem mem_shownLines {source : List Char} {location : Location} {shown : ShownLine} :
    shown ∈ shownLines source location ↔
      linesBefore location < shown.number ∧
      shown.number ≤ lastLine location (splitLines source).length ∧
      (splitLines source)[shown.number - 1]? = some shown.text ∧
      shown.marker = marker? location shown.number shown.text.length := by
  rw [List.mem_iff_getElem?]
  constructor
  · rintro ⟨index, here⟩
    rw [getElem?_shownLines] at here
    split at here
    · rename_i inside
      obtain ⟨text, there, rfl⟩ := Option.map_eq_some_iff.mp here
      exact ⟨by simp only; omega, inside, there, rfl⟩
    · cases here
  · rintro ⟨above, below, there, marked⟩
    refine ⟨shown.number - 1 - linesBefore location, ?_⟩
    have place : linesBefore location + (shown.number - 1 - linesBefore location) =
        shown.number - 1 := by omega
    have number : shown.number - 1 + 1 = shown.number := by omega
    rw [getElem?_shownLines, place, if_pos (by omega), there, Option.map_some, number, ← marked]

/-- The numbers of a frame ascend. -/
theorem shownLines_ascending (source : List Char) (location : Location) :
    (shownLines source location).Pairwise fun upper lower => upper.number < lower.number := by
  rw [List.pairwise_iff_getElem]
  intro first second firstIn secondIn before
  have firstNumber := getElem?_shownLines source location first
  have secondNumber := getElem?_shownLines source location second
  rw [List.getElem?_eq_getElem firstIn] at firstNumber
  rw [List.getElem?_eq_getElem secondIn] at secondNumber
  split at firstNumber
  · split at secondNumber
    · obtain ⟨_, -, upper⟩ := Option.map_eq_some_iff.mp firstNumber.symm
      obtain ⟨_, -, lower⟩ := Option.map_eq_some_iff.mp secondNumber.symm
      rw [← upper, ← lower]
      simp only
      omega
    · cases secondNumber
  · cases firstNumber

theorem lastLine_le (location : Location) (total : Nat) : lastLine location total ≤ total := by
  rw [lastLine]
  omega

theorem length_numberLines (location : Location) (before : Nat) (lines : List (List Char)) :
    (numberLines location before lines).length = lines.length := by
  induction lines generalizing before with
  | nil => rfl
  | cons text lines ih => rw [numberLines, List.length_cons, ih, List.length_cons]

theorem length_shownLines (source : List Char) (location : Location) :
    (shownLines source location).length =
      lastLine location (splitLines source).length - linesBefore location := by
  rw [shownLines, length_numberLines, List.length_drop, List.length_take,
    Nat.min_eq_left (lastLine_le _ _)]

/-- The last line of a frame has the greatest number. -/
theorem numberWidth_shownLines {source : List Char} {location : Location}
    (nonempty : linesBefore location < lastLine location (splitLines source).length) :
    numberWidth (shownLines source location) =
      (digits (lastLine location (splitLines source).length)).length := by
  have inside := lastLine_le location (splitLines source).length
  have place : linesBefore location + (lastLine location (splitLines source).length -
      linesBefore location - 1) = lastLine location (splitLines source).length - 1 := by omega
  have number : lastLine location (splitLines source).length - 1 + 1 =
      lastLine location (splitLines source).length := by omega
  have last := getElem?_shownLines source location
    (lastLine location (splitLines source).length - linesBefore location - 1)
  have exists_line : lastLine location (splitLines source).length - 1 <
      (splitLines source).length := by omega
  rw [place, if_pos (by omega), List.getElem?_eq_getElem exists_line, Option.map_some,
    number] at last
  rw [numberWidth, List.getLast?_eq_getElem?, length_shownLines, last]

/-- The characters of a shown line are characters of the source. -/
theorem mem_source_of_mem_text {source : List Char} {location : Location} {shown : ShownLine}
    (member : shown ∈ shownLines source location) {character : Char}
    (inside : character ∈ shown.text) : character ∈ source := by
  obtain ⟨-, -, there, -⟩ := mem_shownLines.mp member
  exact ((cut_splitLines source).mem_of_mem_line (List.mem_of_getElem? there) inside).1

end DiagnosticReport.Frame
