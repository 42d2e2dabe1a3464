import DiagnosticReport.Proofs.Frame.Rows

/-!
# Frames that point into one line

A location with both ends in one line flags that line only. If its columns lie
within the line, the carets stand under exactly the characters between them.

`PointsInto` says what a reader takes from such a frame: one row with a mark, the
carets right below it, and around both the rows of other lines, without a mark. Every
location within one line of a source has such a frame (`pointsInto_of_spans`).
-/

set_option autoImplicit false

namespace DiagnosticReport.Frame

open DiagnosticReport.Text

/-! ## The location -/

/-- A location spans some characters of one line: it starts behind `column`
characters of the line with this number and ends `length` characters later. -/
structure SpansOneLine (location : Location) (number column length : Nat) : Prop where
  startLine : location.start.line.toInt = number
  stopLine : location.stop.line.toInt = number
  startColumn : location.start.column.toInt = column + 1
  stopColumn : location.stop.column.toInt = column + 1 + length

/-- The marker of a location within one line. -/
theorem SpansOneLine.marker?_eq {location : Location} {number column length : Nat}
    (spans : SpansOneLine location number column length) (positive : 1 ≤ length) (other : Nat)
    (lineLength : Nat) :
    marker? location other lineLength =
      if other = number then some (.columns (column + 1 : Nat) length) else none := by
  obtain ⟨startLine, stopLine, startColumn, stopColumn⟩ := spans
  have columnsDiffer : ¬ ((column : Int) + 1 = column + 1 + length) := by omega
  have width : (column : Int) + 1 + length - (column + 1) = length := by omega
  simp only [marker?, startLine, stopLine, startColumn, stopColumn, ne_eq, not_true_eq_false,
    if_false, columnsDiffer, width, Int.natCast_inj, Int.natCast_add, Int.cast_ofNat_Int]

/-! ## Carets within their line -/

/-- Carets within their line are not cut. -/
theorem caretCount_of_inside {lineLength column length : Nat} (positive : 1 ≤ length)
    (inside : column + length ≤ lineLength) :
    caretCount lineLength (column + 1 : Nat) length = length := by
  unfold caretCount
  omega

/-- In front of the carets stands what the line has there, blanked but for its tabs. -/
theorem filler_succ (text : List Char) (column : Nat) :
    filler text (column + 1 : Nat) =
      (text.take column).map fun character => if character = '\t' then '\t' else ' ' := by
  have taken : (((column + 1 : Nat) : Int) - 1).toNat = column := by omega
  simp only [filler, taken, beq_iff_eq]

/-! ## The frame -/

/-- A row shows the line at this place of a text, without a mark. -/
def ShowsQuiet (lines : List (List Char)) (width place : Nat) (row : List Char) : Prop :=
  ∃ text lead, lines[place]? = some text ∧ ShowsLine row lead ' ' width (place + 1) text

/-- A frame points at `length` characters of the line at this place of a text, behind its
first `column` characters. One row shows the line with a mark, the next one the carets.
All others show the lines around it. -/
def PointsInto (lines : List (List Char)) (frame : List Char) (place : Nat) (text : List Char)
    (column length : Nat) : Prop :=
  ∃ (above below : List (List Char)) (row carets lead : List Char) (width : Nat),
    frame.splitOn '\n' = above ++ row :: carets :: below ∧
    ShowsLine row lead '>' width (place + 1) text ∧
    ShowsCarets carets width
      ((text.take column).map fun character => if character = '\t' then '\t' else ' ') length ∧
    (∀ other ∈ above, ∃ earlier < place, ShowsQuiet lines width earlier other) ∧
    ∀ other ∈ below, ∃ later > place, ShowsQuiet lines width later other

section OneLine

variable {source : String} {location : Location} {place column length : Nat}
  (spans : SpansOneLine location (place + 1) column length) (positive : 1 ≤ length)
include spans positive

/-- The line of the location is shown. -/
theorem SpansOneLine.mem_shownLines {text : List Char}
    (here : (splitLines source.toList)[place]? = some text) :
    (⟨place + 1, text, some (.columns (column + 1 : Nat) length)⟩ : ShownLine) ∈
      shownLines source.toList location := by
  have exists_line := (List.getElem?_eq_some_iff.mp here).1
  refine Frame.mem_shownLines.mpr ⟨?_, ?_, here, ?_⟩
  · simp only [linesBefore, spans.startLine, linesAbove]
    omega
  · simp only [lastLine, spans.stopLine, linesBelow]
    omega
  · simp only [spans.marker?_eq positive, if_true]

/-- Every other shown line has a single row, which shows it without a mark. -/
theorem SpansOneLine.exists_single_row {line : ShownLine}
    (shown : line ∈ shownLines source.toList location) (other : line.number ≠ place + 1)
    {width : Nat} (fits : (digits line.number).length ≤ width) :
    ∃ row around, (line.rows .terminal width).map indent = [row] ∧ line.number = around + 1 ∧
      ShowsQuiet (splitLines source.toList) width around row := by
  obtain ⟨above, -, there, marked⟩ := Frame.mem_shownLines.mp shown
  obtain ⟨around, number⟩ := Nat.exists_eq_succ_of_ne_zero (Nat.ne_zero_of_lt above)
  rw [spans.marker?_eq positive, if_neg other] at marked
  have space : line.mark = ' ' := by
    rw [ShownLine.mark, marked]
    rfl
  have noCarets : line.caretRow? width = none := by rw [ShownLine.caretRow?, marked]
  refine ⟨indent (line.lead width ++ body line.text), around, ?_, number, line.text,
    indent (line.lead width), ?_, ?_⟩
  · rw [line.rows_eq, noCarets, Option.toList_none, List.map_singleton]
  · rw [← there, number]
    rfl
  · rw [← Nat.succ_eq_add_one, ← number, ← space]
    exact ShownLine.showsLine fits

/-- The rows of other lines show them without a mark. -/
theorem SpansOneLine.showsQuiet_of_mem_rows {width : Nat}
    (fits : ∀ line ∈ shownLines source.toList location, (digits line.number).length ≤ width)
    {lines : List ShownLine} (shown : ∀ line ∈ lines, line ∈ shownLines source.toList location)
    (others : ∀ line ∈ lines, line.number ≠ place + 1) {row : List Char}
    (member : row ∈ (lines.flatMap (ShownLine.rows .terminal width)).map indent) :
    ∃ line ∈ lines, ∃ around, line.number = around + 1 ∧
      ShowsQuiet (splitLines source.toList) width around row := by
  rw [List.map_flatMap, List.mem_flatMap] at member
  obtain ⟨line, listed, here⟩ := member
  obtain ⟨single, around, rows, number, shows⟩ := spans.exists_single_row positive
    (shown line listed) (others line listed) (fits line (shown line listed))
  rw [rows, List.mem_singleton] at here
  exact ⟨line, listed, around, number, here ▸ shows⟩

/-- **A location within one line points into it**: its frame flags that line only, and
the carets stand under the characters between its columns. -/
theorem pointsInto_of_spans {text : List Char} (inside : column + length ≤ text.length)
    (here : (splitLines source.toList)[place]? = some text) :
    PointsInto (splitLines source.toList) (CodeFrame.render source location).decorated.toList
      place text column length := by
  let flagged : ShownLine := ⟨place + 1, text, some (.columns (column + 1 : Nat) length)⟩
  have member : flagged ∈ shownLines source.toList location := spans.mem_shownLines positive here
  obtain ⟨width, upper, lower, lines, fits, split, shows⟩ :=
    CodeFrame.exists_splitOn_of_columns member rfl
  have upperShown : ∀ line ∈ upper, line ∈ shownLines source.toList location :=
    fun line above => lines ▸ List.mem_append_left _ above
  have lowerShown : ∀ line ∈ lower, line ∈ shownLines source.toList location :=
    fun line below => lines ▸ List.mem_append_right _ (List.mem_cons_of_mem _ below)
  -- The numbers ascend, so no other line has the number of the flagged one.
  have ascending := shownLines_ascending source.toList location
  rw [lines, List.pairwise_append, List.pairwise_cons] at ascending
  obtain ⟨-, ⟨later, -⟩, earlier⟩ := ascending
  have before : ∀ line ∈ upper, line.number < place + 1 :=
    fun line above => earlier line above flagged List.mem_cons_self
  have after : ∀ line ∈ lower, place + 1 < line.number := later
  have carets := showsCarets_caretRow width text (column + 1 : Nat) length
  rw [filler_succ, caretCount_of_inside positive inside] at carets
  refine ⟨_, _, _, _, _, width, split, shows, carets, ?_, ?_⟩
  · intro row above
    obtain ⟨line, listed, around, number, shows⟩ := spans.showsQuiet_of_mem_rows positive fits
      upperShown (fun line listed => Nat.ne_of_lt (before line listed)) above
    have numbers := before line listed
    exact ⟨around, by omega, shows⟩
  · intro row below
    obtain ⟨line, listed, around, number, shows⟩ := spans.showsQuiet_of_mem_rows positive fits
      lowerShown (fun line listed => Nat.ne_of_gt (after line listed)) below
    have numbers := after line listed
    exact ⟨around, by omega, shows⟩

end OneLine

end DiagnosticReport.Frame
