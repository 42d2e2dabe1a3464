import DiagnosticReport.Proofs.Text.LineCut
import Mathlib.Data.List.Infix

/-!
# Texts whose lines end alike

A file keeps to one convention: the same separator stands between all its lines.
Such a text is cut into these lines, whichever of the five separators it is
(`cut_intercalate`), and a point of the lines is where the walk of its offset
ends (`pointAt_offsetWith`). The offset of a point grows with the length of the
separator; the point does not.
-/

set_option autoImplicit false

namespace DiagnosticReport.Text

/-- The separators that a text can have between its lines. -/
def lineEndings : List (List Char) := [['\n'], ['\r', '\n'], ['\r'], ['\u2028'], ['\u2029']]

/-- No line holds a line break. -/
def Unbroken (lines : List (List Char)) : Prop :=
  ∀ line ∈ lines, ∀ character ∈ line, isLineBreak character = false

/-- A point is on one of the lines, behind its last character at most. -/
def Inside (lines : List (List Char)) (point : Point) : Prop :=
  ∃ line, lines[point.line]? = some line ∧ point.column ≤ line.length

/-- A point is not behind another. -/
def Point.NotBehind (first second : Point) : Prop :=
  first.line < second.line ∨ first.line = second.line ∧ first.column ≤ second.column

/-- The offset of a point in lines that are joined by this separator. -/
def offsetWith (ending : List Char) (lines : List (List Char)) (point : Point) : Nat :=
  (lines.take point.line).flatten.length + point.line * ending.length + point.column

variable {ending : List Char} {lines : List (List Char)} {point first second : Point}

/-! ## The cut of joined lines -/

theorem Unbroken.tail {line : List Char} (unbroken : Unbroken (line :: lines)) : Unbroken lines :=
  fun other member => unbroken other (List.mem_cons_of_mem _ member)

/-- Lines joined by carriage returns hold no line feed. -/
theorem feed_notMem_intercalate_carriage (unbroken : Unbroken lines) :
    '\n' ∉ ['\r'].intercalate lines := by
  induction lines with
  | nil => exact List.not_mem_nil
  | cons line others ih =>
      have notHere : '\n' ∉ line := fun member =>
        absurd (unbroken line List.mem_cons_self '\n' member) (by decide)
      cases others with
      | nil =>
          rw [List.intercalate_singleton]
          exact notHere
      | cons next others =>
          rw [List.intercalate_cons_cons, List.mem_append, List.mem_append]
          rintro ((here | between) | later)
          · exact notHere here
          · exact absurd between (by decide)
          · exact ih unbroken.tail later

/-- The separator is the one that the text behind a line starts with. A carriage
return alone would be taken for half of a pair if a line feed followed it. -/
theorem leadingBreak?_ending (known : ending ∈ lineEndings) (unbroken : Unbroken lines) :
    leadingBreak? (ending ++ ending.intercalate lines) = some ending := by
  simp only [lineEndings, List.mem_cons, List.not_mem_nil, or_false] at known
  rcases known with rfl | rfl | rfl | rfl | rfl
  · rfl
  · rfl
  · refine leadingBreak?_of_isLineBreak (by decide) ?_
    intro others _ feed
    refine feed_notMem_intercalate_carriage unbroken ?_
    change ['\r'].intercalate lines = '\n' :: others at feed
    rw [feed]
    exact List.mem_cons_self
  · rfl
  · rfl

/-- **Lines joined by a separator are cut into these lines again.** -/
theorem cut_intercalate (known : ending ∈ lineEndings) (line : List Char)
    (unbroken : Unbroken (line :: lines)) :
    Cut (ending.intercalate (line :: lines)) (line :: lines)
      (List.replicate lines.length ending) := by
  induction lines generalizing line with
  | nil =>
      rw [List.intercalate_singleton]
      exact .last (unbroken line List.mem_cons_self)
  | cons next others ih =>
      rw [List.intercalate_cons_cons, List.append_assoc, List.length_cons, List.replicate_succ]
      exact .step (unbroken line List.mem_cons_self)
        (leadingBreak?_ending known unbroken.tail) (ih next unbroken.tail)

theorem splitLines_intercalate (known : ending ∈ lineEndings) (nonempty : lines ≠ [])
    (unbroken : Unbroken lines) : splitLines (ending.intercalate lines) = lines := by
  obtain ⟨line, others, rfl⟩ := List.exists_cons_of_ne_nil nonempty
  exact (cut_iff.mp (cut_intercalate known line unbroken)).1.symm

/-! ## Points of joined lines -/

theorem Inside.nonempty (inside : Inside lines point) : lines ≠ [] := by
  obtain ⟨line, here, -⟩ := inside
  rintro rfl
  cases here

/-- A point is where the walk of its offset ends. -/
theorem pointAt_offsetWith (known : ending ∈ lineEndings) (unbroken : Unbroken lines)
    (inside : Inside lines point) :
    pointAt (ending.intercalate lines) (offsetWith ending lines point) = point := by
  obtain ⟨index, column⟩ := point
  obtain ⟨line, here, bound⟩ := inside
  simp only at here bound
  induction lines generalizing index with
  | nil => cases here
  | cons first others ih =>
      have plain := unbroken first List.mem_cons_self
      cases index with
      | zero =>
          obtain rfl : first = line := by simpa using here
          have sameOffset : offsetWith ending (first :: others) ⟨0, column⟩ = column := by
            simp [offsetWith]
          rw [sameOffset]
          cases others with
          | nil =>
              rw [List.intercalate_singleton, ← List.append_nil first]
              exact pointAt_append_unbroken plain [] bound
          | cons next others =>
              rw [List.intercalate_cons_cons, List.append_assoc]
              exact pointAt_append_unbroken plain _ bound
      | succ index =>
          rw [List.getElem?_cons_succ] at here
          have inner := ih unbroken.tail index here
          cases others with
          | nil => cases here
          | cons next others =>
              have sameOffset : offsetWith ending (first :: next :: others) ⟨index + 1, column⟩ =
                  first.length +
                    (ending.length + offsetWith ending (next :: others) ⟨index, column⟩) := by
                simp only [offsetWith, List.take_succ_cons, List.flatten_cons, List.length_append,
                  Nat.add_mul, Nat.one_mul]
                omega
              have walk := pointFrom_later 1 ⟨0, 0⟩ (ending.intercalate (next :: others))
                (offsetWith ending (next :: others) ⟨index, column⟩)
              rw [pointAt] at inner
              rw [inner] at walk
              rw [sameOffset, List.intercalate_cons_cons, List.append_assoc, pointAt,
                pointFrom_append_unbroken plain,
                pointFrom_append_separator (leadingBreak?_ending known unbroken.tail)]
              exact walk

/-- The offsets of two points are in the order of the points. -/
theorem offsetWith_le_of_notBehind (firstInside : Inside lines first)
    (order : first.NotBehind second) :
    offsetWith ending lines first ≤ offsetWith ending lines second := by
  obtain ⟨line, here, bound⟩ := firstInside
  rcases order with before | ⟨sameLine, notBehind⟩
  · -- the line of the first point is among those before the second one
    have upTo : (lines.take (first.line + 1)).flatten.length =
        (lines.take first.line).flatten.length + line.length := by
      rw [List.take_add_one, here]
      simp
    have growing : (lines.take (first.line + 1)).flatten.length ≤
        (lines.take second.line).flatten.length :=
      (List.IsPrefix.flatten (List.take_prefix_take_left before)).length_le
    have separators := Nat.mul_le_mul_right ending.length (Nat.le_of_lt before)
    rw [offsetWith, offsetWith]
    omega
  · rw [offsetWith, offsetWith, sameLine]
    exact Nat.add_le_add_left notBehind _

end DiagnosticReport.Text
