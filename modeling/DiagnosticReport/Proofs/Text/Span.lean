import DiagnosticReport.Proofs.Text.LineCut

/-!
# Spans within a line

A span of a text that holds at least one character and no line break lies in
one line of the text. Its start and its end have the same line, the columns
differ by its length, and the line holds the characters of the span between
these columns (`pointAt_span`).
-/

set_option autoImplicit false

namespace DiagnosticReport.Text

theorem head_of_leadingBreak? {text separator : List Char}
    (leads : leadingBreak? text = some separator) :
    ∃ character rest, text = character :: rest ∧ isLineBreak character = true := by
  unfold leadingBreak? at leads
  split at leads
  · exact ⟨'\r', _, rfl, by decide⟩
  · rename_i character rest _
    split at leads
    · rename_i breaks
      exact ⟨character, rest, rfl, breaks⟩
    · cases leads
  · cases leads

theorem eq_pair_of_leadingBreak? {text : List Char}
    (leads : leadingBreak? text = some ['\r', '\n']) : ∃ rest, text = '\r' :: '\n' :: rest := by
  unfold leadingBreak? at leads
  split at leads
  · exact ⟨_, rfl⟩
  · split at leads
    · cases leads
    · cases leads
  · cases leads

section Span

variable {text : List Char} {start length : Nat}
  (unbroken : ∀ character ∈ (text.drop start).take length, isLineBreak character = false)
include unbroken

/-- A span that holds a character does not start inside a pair. -/
theorem column_le_of_span (positive : 1 ≤ length) (inText : start ≤ text.length) {line : List Char}
    (here : (splitLines text)[(pointAt text start).line]? = some line) :
    (pointAt text start).column ≤ line.length := by
  have cut := cut_splitLines text
  obtain ⟨⟨sameLine, there, bound⟩, sameOffset⟩ := cut.within_pointAt start
  obtain rfl := Option.some.inj (here.symm.trans there)
  rcases bound with inside | ⟨pair, behind⟩
  · exact inside
  · exfalso
    obtain ⟨rest, place, ⟨-, none⟩ | ⟨separator, found, leads⟩⟩ :=
      cut.drop_offsetOf here (Nat.le_refl line.length)
    · rw [pair] at none
      cases none
    · obtain rfl := Option.some.inj (pair.symm.trans found)
      obtain ⟨more, rfl⟩ := eq_pair_of_leadingBreak? leads
      have next : start =
          offsetOf (splitLines text) (separatorsOf text) ⟨(pointAt text start).line, line.length⟩ +
            1 := by
        rw [Nat.min_eq_left inText, offsetOf, behind] at sameOffset
        simp only [offsetOf]
        omega
      have feed : text.drop start = '\n' :: more := by
        rw [next, ← List.drop_drop, place, List.drop_length, List.nil_append]
        rfl
      obtain ⟨fewer, rfl⟩ := Nat.exists_eq_add_of_le' positive
      rw [feed, List.take_succ_cons] at unbroken
      exact absurd (unbroken '\n' List.mem_cons_self) (by decide)

/-- **A span without a line break lies in one line**, between the columns of its
ends, and the line holds its characters there. -/
theorem pointAt_span (positive : 1 ≤ length) (inText : start + length ≤ text.length) :
    ∃ line, (splitLines text)[(pointAt text start).line]? = some line ∧
      (pointAt text start).column + length ≤ line.length ∧
      (line.drop (pointAt text start).column).take length = (text.drop start).take length ∧
      pointAt text (start + length) =
        ⟨(pointAt text start).line, (pointAt text start).column + length⟩ := by
  have cut := cut_splitLines text
  have startIn : start ≤ text.length := Nat.le_of_add_right_le inText
  obtain ⟨⟨line, here, -⟩, sameOffset⟩ := cut.within_pointAt start
  rw [Nat.min_eq_left startIn] at sameOffset
  have inside := column_le_of_span unbroken positive startIn here
  obtain ⟨rest, place, follows⟩ := cut.drop_offsetOf here inside
  change text.drop (offsetOf _ _ (pointAt text start)) = _ at place
  rw [sameOffset] at place
  have long : length ≤ (line.drop (pointAt text start).column).length := by
    refine Nat.le_of_not_lt fun short => ?_
    rcases follows with ⟨rfl, -⟩ | ⟨separator, -, leads⟩
    · have whole := congrArg List.length place
      simp only [List.length_drop, List.append_nil] at whole short
      omega
    · obtain ⟨character, more, rfl, breaks⟩ := head_of_leadingBreak? leads
      obtain ⟨fewer, count⟩ := Nat.exists_eq_add_of_lt short
      have member : character ∈ (text.drop start).take length := by
        rw [place, count, Nat.add_assoc, List.take_length_add_append, List.take_succ_cons]
        exact List.mem_append_right _ List.mem_cons_self
      rw [unbroken character member] at breaks
      cases breaks
  have fits : (pointAt text start).column + length ≤ line.length := by
    rw [List.length_drop] at long
    omega
  refine ⟨line, here, fits, ?_, ?_⟩
  · rw [place, List.take_append_of_le_length long]
  · obtain ⟨endWithin, endOffset⟩ := cut.within_pointAt (start + length)
    refine cut.offsetOf_injective endWithin ⟨line, here, .inl fits⟩ ?_
    rw [endOffset, Nat.min_eq_left inText, offsetOf_add, sameOffset]

end Span

end DiagnosticReport.Text
