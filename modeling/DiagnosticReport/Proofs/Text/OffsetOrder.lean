import DiagnosticReport.Proofs.Text.LineEnding

/-!
# Offsets in their order

A later offset is resolved to a place that is not in front of that of an earlier
one (`pointAt_notBehind`). This goes for offsets inside a pair and for offsets
behind the text too, which all have the place of its end.

A span whose ends have different lines holds the start of its last line, up to the
column of its end (`exists_endsOnLine`).
-/

set_option autoImplicit false

namespace DiagnosticReport.Text

variable {text : List Char} {lines separators : List (List Char)}

/-! ## The order of places -/

/-- A place on an earlier line has a smaller offset. -/
theorem Cut.offsetOf_lt_of_line_lt (cut : Cut text lines separators) {first second : Point}
    (within : Within lines separators first) (earlier : first.line < second.line)
    (exists_line : second.line ≤ separators.length) :
    offsetOf lines separators first < offsetOf lines separators second := by
  obtain ⟨firstLine, firstColumn⟩ := first
  obtain ⟨secondLine, secondColumn⟩ := second
  induction cut generalizing firstLine secondLine with
  | last unbroken =>
      rw [List.length_nil] at exists_line
      omega
  | step unbroken leads later ih =>
      have positive := length_separator_pos leads
      cases secondLine with
      | zero => exact absurd earlier (Nat.not_lt_zero _)
      | succ secondLine =>
          rw [offsetOf_laterLine]
          cases firstLine with
          | zero =>
              have short := within.column_lt positive
              rw [offsetOf_firstLine]
              omega
          | succ firstLine =>
              have inner := ih firstLine (within_laterLine.mp within) secondLine
                (Nat.le_of_succ_le_succ exists_line) (Nat.lt_of_succ_lt_succ earlier)
              rw [offsetOf_laterLine]
              exact Nat.add_lt_add_left inner _

/-- **A later offset has no place in front of that of an earlier one.** -/
theorem pointAt_notBehind {first second : Nat} (order : first ≤ second) :
    (pointAt text first).NotBehind (pointAt text second) := by
  have cut := cut_splitLines text
  obtain ⟨firstWithin, firstOffset⟩ := cut.within_pointAt first
  obtain ⟨secondWithin, secondOffset⟩ := cut.within_pointAt second
  have firstLine := (pointAt_eq_iff_liesAt.mp (rfl : pointAt text first = _)).line_le
  have clamped : min first text.length ≤ min second text.length := by omega
  rcases Nat.lt_trichotomy (pointAt text first).line (pointAt text second).line with
    before | same | behind
  · exact .inl before
  · refine .inr ⟨same, ?_⟩
    rw [offsetOf, same] at firstOffset
    rw [offsetOf] at secondOffset
    omega
  · have reversed := cut.offsetOf_lt_of_line_lt secondWithin behind firstLine
    omega

/-- Offsets behind a text have the place of its end. -/
theorem pointAt_of_length_le {offset : Nat} (behind : text.length ≤ offset) :
    pointAt text offset = pointAt text text.length := by
  rw [pointAt_eq_iff_liesAt, Nat.min_self]
  have place := pointAt_eq_iff_liesAt.mp (rfl : pointAt text offset = _)
  rwa [Nat.min_eq_right behind] at place

/-- The line of an offset is a line of the text. -/
theorem line_pointAt_lt (text : List Char) (offset : Nat) :
    (pointAt text offset).line < (splitLines text).length := by
  obtain ⟨⟨line, here, -⟩, -⟩ := (cut_splitLines text).within_pointAt offset
  exact (List.getElem?_eq_some_iff.mp here).1

/-! ## The last line of a span -/

/-- A place within the text is found again from its offset. -/
theorem pointAt_offsetOf {point : Point}
    (within : Within (splitLines text) (separatorsOf text) point)
    (inText : offsetOf (splitLines text) (separatorsOf text) point ≤ text.length) :
    pointAt text (offsetOf (splitLines text) (separatorsOf text) point) = point := by
  have cut := cut_splitLines text
  obtain ⟨walked, sameOffset⟩ :=
    cut.within_pointAt (offsetOf (splitLines text) (separatorsOf text) point)
  rw [Nat.min_eq_left inText] at sameOffset
  exact cut.offsetOf_injective walked within sameOffset

/-- A span ends on the line with this number, counted from zero. It holds `upper`, up
to the start of the line, and then the first characters of the line. -/
structure EndsOnLine (text : List Char) (start length number : Nat)
    (line upper covered : List Char) : Prop where
  here : (splitLines text)[number]? = some line
  isPrefix : covered <+: line
  span_eq : (text.drop start).take length = upper ++ covered
  startOfLine : pointAt text (start + upper.length) = ⟨number, 0⟩
  stop : pointAt text (start + length) = ⟨number, covered.length⟩

/-- **A span that crosses a line break holds the start of its last line**, up to the
column of its end. -/
theorem exists_endsOnLine {start length : Nat} (inText : start + length ≤ text.length)
    (crosses : (pointAt text start).line ≠ (pointAt text (start + length)).line)
    (notInPair : ¬ InsidePair (splitLines text) (separatorsOf text) (start + length)) :
    ∃ number line upper covered, EndsOnLine text start length number line upper covered := by
  have cut := cut_splitLines text
  obtain ⟨startWithin, startOffset⟩ := cut.within_pointAt start
  have place := pointAt_eq_iff_liesAt.mp (rfl : pointAt text (start + length) = _)
  rw [Nat.min_eq_left inText] at place
  obtain ⟨exists_line, stopOffset, line, here, -, inside⟩ := place
  have order : (pointAt text start).NotBehind (pointAt text (start + length)) :=
    pointAt_notBehind (Nat.le_add_right start length)
  obtain ⟨number, column, stop⟩ : ∃ number column, pointAt text (start + length) = ⟨number, column⟩ :=
    ⟨_, _, rfl⟩
  rw [stop] at exists_line stopOffset here inside order crosses
  -- The last line starts between the ends of the span.
  have earlier : (pointAt text start).line < number :=
    order.resolve_right fun same => crosses same.1
  have lineStart : offsetOf (splitLines text) (separatorsOf text) (pointAt text start) <
      offsetOf (splitLines text) (separatorsOf text) ⟨number, 0⟩ :=
    cut.offsetOf_lt_of_line_lt startWithin earlier exists_line
  rw [startOffset, Nat.min_eq_left (Nat.le_of_add_right_le inText)] at lineStart
  have stopSum := offsetOf_add (splitLines text) (separatorsOf text) ⟨number, 0⟩ column
  rw [Nat.zero_add, stopOffset] at stopSum
  obtain ⟨rest, found, -⟩ := cut.drop_offsetOf here (Nat.zero_le line.length)
  rw [List.drop_zero] at found
  have within : Within (splitLines text) (separatorsOf text) ⟨number, 0⟩ :=
    ⟨line, here, .inl (Nat.zero_le _)⟩
  have startOfLine := pointAt_offsetOf within (by omega)
  generalize offsetOf (splitLines text) (separatorsOf text) ⟨number, 0⟩ = first at *
  obtain ⟨before, rfl⟩ := Nat.exists_eq_add_of_le (Nat.le_of_lt lineStart)
  obtain rfl : length = before + column := by omega
  have short : ((text.drop start).take before).length = before := by
    rw [List.length_take, List.length_drop]
    omega
  have column_eq : (line.take column).length = column :=
    List.length_take_of_le (inside notInPair)
  refine ⟨number, line, (text.drop start).take before, line.take column, here,
    List.take_prefix column line, ?_, ?_, ?_⟩
  · rw [List.take_add, List.drop_drop, found, List.take_append_of_le_length (inside notInPair)]
  · rw [short]
    exact startOfLine
  · rw [column_eq]
    exact stop

end DiagnosticReport.Text
