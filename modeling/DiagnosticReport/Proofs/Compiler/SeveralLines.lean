import DiagnosticReport.Proofs.Compiler.Placement
import DiagnosticReport.Proofs.Frame.Pointing
import DiagnosticReport.Proofs.Location

/-!
# Spans over several lines

The column of the end of a location is the first one behind the span. Within one
line the carets end in front of it. On the last of several lines they end below it:
where the span ends in front of the end of the line, there is one caret more than
the span has characters there (`carets_on_lastLine`). The same columns get the
right number of carets from a location within that line.
-/

set_option autoImplicit false

namespace DiagnosticReport.Frame

open DiagnosticReport.Text

/-! ## The carets of the last line -/

/-- The last of several lines has its carets from the start of the line to the column
of the end. -/
theorem marker?_lastLine {location : Location} {number : Int}
    (crosses : location.start.line.toInt < number) (stop : location.stop.line.toInt = number)
    (column : location.start.column.toInt ≠ 0) (length : Nat) :
    marker? location number length = some (.columns 0 location.stop.column.toInt) := by
  have several : ¬ location.start.line.toInt = number := Int.ne_of_lt crosses
  have after : ¬ number = location.start.line.toInt := Int.ne_of_gt crosses
  simp only [marker?, stop, several, after, column, ne_eq, not_false_eq_true, if_true, if_false,
    Int.le_of_lt crosses, Int.le_refl, and_self]

/-- In front of carets at the start of a line nothing stands. -/
theorem filler_of_column_le_one (text : List Char) {column : Int} (first : column ≤ 1) :
    filler text column = [] := by
  have taken : (column - 1).toNat = 0 := by omega
  rw [filler, taken, List.take_zero, List.map_nil]

section LastLine

variable {source : String} {location : Location} {number column : Nat} {line : List Char}
  (here : (splitLines source.toList)[number]? = some line)
  (stopLine : location.stop.line.toInt = number + 1)
include here stopLine

/-- The last line of a location is shown. -/
theorem lastLine_mem_shownLines (order : location.start.line.toInt ≤ location.stop.line.toInt) :
    (⟨number + 1, line, marker? location (number + 1 : Nat) line.length⟩ : ShownLine) ∈
      shownLines source.toList location := by
  have exists_line := (List.getElem?_eq_some_iff.mp here).1
  refine mem_shownLines.mpr ⟨?_, ?_, here, rfl⟩
  · simp only [linesBefore, linesAbove]
    omega
  · simp only [lastLine, stopLine, linesBelow]
    omega

variable (reaches : 1 ≤ column) (inside : column ≤ line.length)
  (stopColumn : location.stop.column.toInt = column + 1)
include reaches inside stopColumn

/-- Below the last of several lines the carets go one column too far, if the line
does. -/
theorem underlined_lastLine (crosses : location.start.line.toInt < location.stop.line.toInt)
    (columns : location.start.column.toInt ≠ 0) :
    Underlined (CodeFrame.render source location).decorated.toList (number + 1) line []
      (min (column + 1) line.length) := by
  have shown := lastLine_mem_shownLines here stopLine (Int.le_of_lt crosses)
  have marked : marker? location (number + 1 : Nat) line.length =
      some (.columns 0 location.stop.column.toInt) :=
    marker?_lastLine (stopLine ▸ crosses) stopLine columns line.length
  have carets : caretCount line.length 0 location.stop.column.toInt =
      min (column + 1) line.length := by
    rw [caretCount, stopColumn]
    omega
  have underlined := underlined_of_shown shown marked
  rwa [filler_of_column_le_one line (by decide), carets] at underlined

/-- Below a line with both ends of the location the carets end in front of its end. -/
theorem underlined_onlyLine (startLine : location.start.line.toInt = number + 1)
    (startColumn : location.start.column.toInt = 1) :
    Underlined (CodeFrame.render source location).decorated.toList (number + 1) line []
      column := by
  have shown := lastLine_mem_shownLines here stopLine (by omega)
  have spans : SpansOneLine location (number + 1) 0 column :=
    ⟨startLine, stopLine, startColumn, by omega⟩
  have marked : marker? location (number + 1 : Nat) line.length = some (.columns 1 column) := by
    rw [spans.marker?_eq reaches, if_pos rfl]
    rfl
  have carets : caretCount line.length 1 column = column :=
    @caretCount_of_inside line.length 0 column reaches (by omega)
  have underlined := underlined_of_shown shown marked
  rwa [filler_of_column_le_one line (by decide), carets] at underlined

end LastLine

end DiagnosticReport.Frame

namespace DiagnosticReport.CompilerDiagnostic

open DiagnosticReport.Text
open DiagnosticReport.Frame

/-! ## Diagnostics -/

/-- The location of a span that crosses a line break, in exact numbers. -/
theorem spanLocation_of_endsOnLine {text : String} {start length : UInt64} {number : Nat}
    {line upper covered : List Char}
    (ends : EndsOnLine text.toList start.toNat length.toNat number line upper covered)
    (inText : start.toNat + length.toNat ≤ text.toList.length)
    (crosses : (pointAt text.toList start.toNat).line < number) (reaches : 1 ≤ covered.length)
    (fits : text.toList.length < 2 ^ 63) :
    (spanLocation text start length).start.line.toInt = (pointAt text.toList start.toNat).line + 1 ∧
      (spanLocation text start length).stop.line.toInt = number + 1 ∧
      (spanLocation text start length).stop.column.toInt = covered.length + 1 := by
  have notClamped : spanEnd start length = start.toNat + length.toNat := by
    rw [spanEnd, UInt64.size]
    omega
  have bound := pointAt_add_le text.toList (start.toNat + length.toNat)
  rw [ends.stop, Nat.min_eq_left inText] at bound
  simp only at bound
  have lineFits : number + 1 < 2 ^ 63 := by omega
  have columnFits : covered.length + 1 < 2 ^ 63 := by omega
  rw [spanLocation, notClamped, EnginePosition.ofOffset, EnginePosition.ofOffset, ends.stop]
  refine ⟨?_, ?_, ?_⟩
  · exact toInt_saturatingNext_of_lt (toInt_ofIntClamp_of_lt (by omega)) (by omega)
  · exact toInt_saturatingNext_of_lt (toInt_ofIntClamp_of_lt (Nat.lt_of_succ_lt lineFits)) lineFits
  · exact toInt_saturatingNext_of_lt (toInt_ofIntClamp_of_lt (Nat.lt_of_succ_lt columnFits))
      columnFits

/-- **The carets of the last of several lines.** A span that ends behind some
characters of its last line gets one caret more than it holds of the line, or the
whole line. So the carets are those of its characters only if it holds the whole
line. A location within the line that ends there too gets a caret for each
character. -/
theorem carets_on_lastLine {diagnostic : CompilerDiagnostic} {file : SourceFile}
    {start length : UInt64} (inFile : diagnostic.file = some file)
    (starts : diagnostic.start = some start) (spans : diagnostic.length = some length)
    (inText : start.toNat + length.toNat ≤ file.text.toList.length)
    (crosses : (pointAt file.text.toList start.toNat).line ≠
      (pointAt file.text.toList (start.toNat + length.toNat)).line)
    (reaches : 1 ≤ (pointAt file.text.toList (start.toNat + length.toNat)).column)
    (notInPair : ¬ InsidePair (splitLines file.text.toList) (separatorsOf file.text.toList)
      (start.toNat + length.toNat))
    (fits : file.text.toList.length < 2 ^ 63) :
    ∃ (location : Location) (frame : String) (number : Nat) (line upper covered : List Char),
      diagnostic.normalize.location = some location ∧
      diagnostic.normalize.codeFrame = some frame ∧
      EndsOnLine file.text.toList start.toNat length.toNat number line upper covered ∧
      location.stop.line.toInt = number + 1 ∧
      location.stop.column.toInt = covered.length + 1 ∧
      Underlined frame.toList (number + 1) line [] (min (covered.length + 1) line.length) ∧
      (min (covered.length + 1) line.length = covered.length ↔ covered = line) ∧
      Underlined
        (CodeFrame.render file.text ⟨⟨location.stop.line, 1⟩, location.stop⟩).decorated.toList
        (number + 1) line [] covered.length := by
  obtain ⟨located, framed⟩ := normalize_of_place (place?_of_span inFile starts spans)
  obtain ⟨number, line, upper, covered, ends⟩ := exists_endsOnLine inText crosses notInPair
  have inside : covered.length ≤ line.length := ends.isPrefix.length_le
  have order : (pointAt file.text.toList start.toNat).NotBehind
      (pointAt file.text.toList (start.toNat + length.toNat)) :=
    pointAt_notBehind (Nat.le_add_right start.toNat length.toNat)
  rw [ends.stop] at crosses reaches order
  have earlier : (pointAt file.text.toList start.toNat).line < number :=
    order.resolve_right fun same => crosses same.1
  obtain ⟨startLine, stopLine, stopColumn⟩ :=
    spanLocation_of_endsOnLine ends inText earlier reaches fits
  have wellFormed := spanLocation_wellFormed file.text start length fits
  generalize spanLocation file.text start length = location at *
  have below : location.start.line.toInt < location.stop.line.toInt := by omega
  have columns : location.start.column.toInt ≠ 0 := by
    have positive := wellFormed.one_le_startColumn
    omega
  refine ⟨location, _, number, line, upper, covered, located, framed, ends, stopLine, stopColumn,
    underlined_lastLine ends.here stopLine reaches inside stopColumn below columns, ?_,
    underlined_onlyLine ends.here stopLine reaches inside stopColumn stopLine rfl⟩
  constructor
  · intro same
    exact ends.isPrefix.eq_of_length (by omega)
  · rintro rfl
    omega

/-- A span that ends behind the second character of its second line. -/
def beforeLineEnd : CompilerDiagnostic where
  file := some ⟨"a.ts", "ab\ncdef"⟩
  message := .plain "no"
  category := 1
  start := some 0
  length := some 5

/-- Three carets stand below a line of which the span holds two characters. A location
within the line has two. -/
theorem extra_caret_before_lineEnd :
    EndsOnLine "ab\ncdef".toList 0 5 1 "cdef".toList "ab\n".toList "cd".toList ∧
    beforeLineEnd.normalize.location = some ⟨⟨1, 1⟩, ⟨2, 3⟩⟩ ∧
    beforeLineEnd.normalize.plainFrame =
      some "  > 1 | ab\n      | ^^\n  > 2 | cdef\n      | ^^^" ∧
    (CodeFrame.render "ab\ncdef" ⟨⟨2, 1⟩, ⟨2, 3⟩⟩).stripped =
      "    1 | ab\n  > 2 | cdef\n      | ^^" := by
  refine ⟨⟨rfl, by decide, rfl, rfl, rfl⟩, rfl, ?_, ?_⟩
  · cbv
  · cbv

theorem carets_on_lastLine_beforeLineEnd :
    ((0 : UInt64).toNat + (5 : UInt64).toNat ≤ "ab\ncdef".toList.length ∧
      "ab\ncdef".toList.length < 2 ^ 63) ∧
    ∃ (location : Location) (frame : String) (number : Nat) (line upper covered : List Char),
      beforeLineEnd.normalize.location = some location ∧
      beforeLineEnd.normalize.codeFrame = some frame ∧
      EndsOnLine "ab\ncdef".toList (0 : UInt64).toNat (5 : UInt64).toNat number line upper
        covered ∧
      location.stop.line.toInt = number + 1 ∧
      location.stop.column.toInt = covered.length + 1 ∧
      Underlined frame.toList (number + 1) line [] (min (covered.length + 1) line.length) ∧
      (min (covered.length + 1) line.length = covered.length ↔ covered = line) ∧
      Underlined
        (CodeFrame.render "ab\ncdef" ⟨⟨location.stop.line, 1⟩, location.stop⟩).decorated.toList
        (number + 1) line [] covered.length := by
  have notInPair : ¬ InsidePair (splitLines "ab\ncdef".toList) (separatorsOf "ab\ncdef".toList)
      ((0 : UInt64).toNat + (5 : UInt64).toNat) := by
    rintro ⟨index, line, -, pair, -⟩
    exact absurd (List.mem_of_getElem? pair) (by decide)
  exact ⟨by decide, @carets_on_lastLine beforeLineEnd ⟨"a.ts", "ab\ncdef"⟩ 0 5 rfl rfl rfl
    (by decide) (by decide) (by decide) notInPair (by decide)⟩

end DiagnosticReport.CompilerDiagnostic
