/-!
# Parts of a text between a character

A text that is split at a character falls into parts without that character
(`notMem_of_mem_splitOn`). Every other character of the text is in one of the parts
(`mem_iff_mem_splitOn`).
-/

set_option autoImplicit false

namespace DiagnosticReport.Text

/-- No part of a text split at a character holds that character. -/
theorem notMem_of_mem_splitOn {character : Char} {text part : List Char}
    (member : part ∈ text.splitOn character) : character ∉ part := by
  induction text generalizing part with
  | nil =>
      rw [List.splitOn_nil, List.mem_singleton] at member
      simp [member]
  | cons first text ih =>
      rw [List.splitOn_cons_eq_if_modifyHead] at member
      split at member
      · rcases List.mem_cons.mp member with rfl | later
        · simp
        · exact ih later
      · rename_i different
        cases parts : text.splitOn character with
        | nil => exact absurd parts (List.splitOn_ne_nil character text)
        | cons head others =>
            rw [parts] at member ih
            rcases List.mem_cons.mp member with rfl | later
            · have outside : character ∉ head := ih List.mem_cons_self
              intro inside
              rcases List.mem_cons.mp inside with rfl | deeper
              · exact different (beq_self_eq_true _)
              · exact outside deeper
            · exact ih (List.mem_cons_of_mem _ later)

theorem mem_intercalate_iff {separator character : Char} (other : character ≠ separator)
    (parts : List (List Char)) :
    character ∈ [separator].intercalate parts ↔ ∃ part ∈ parts, character ∈ part := by
  induction parts with
  | nil => simp
  | cons part parts ih =>
      cases parts with
      | nil => simp
      | cons next parts => simp [List.intercalate_cons_cons, ih, other]

/-- A character of a text is in one of the parts, unless the text is split there. -/
theorem mem_iff_mem_splitOn {separator character : Char} (other : character ≠ separator)
    (text : List Char) :
    character ∈ text ↔ ∃ part ∈ text.splitOn separator, character ∈ part := by
  rw [← mem_intercalate_iff other, List.intercalate_splitOn]

end DiagnosticReport.Text
