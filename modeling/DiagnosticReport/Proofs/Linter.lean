import DiagnosticReport.Linter
import DiagnosticReport.Proofs.Frame.Window

/-!
# Linter messages without an end line

A message without an end line ends on line 0. It starts below, so no line of its frame
is flagged (`not_flags_location`) and no row of carets is shown.

The end line also bounds the window from below: line 3 is the last one that is shown,
wherever the message is. The frame of a message on one of the first three lines shows
that line. A message on line 4 or 5 has a frame without its line, and from line 6 on the
frame is empty (`quiet_frame_of_no_endLine`).
-/

set_option autoImplicit false

namespace DiagnosticReport.LintMessage

open DiagnosticReport.Text DiagnosticReport.Frame

variable {message : LintMessage}

/-- A message whose rule is on has a record. -/
theorem exists_normalize? (filePath source : String) (enabled : message.severity ≠ 0) :
    ∃ record, message.normalize? filePath source = some record ∧
      record.codeFrame = some (CodeFrame.render source message.location).decorated := by
  obtain ⟨level, known⟩ : ∃ level, message.level? = some level := by
    rw [level?, if_neg enabled]
    split
    · exact ⟨_, rfl⟩
    · exact ⟨_, rfl⟩
  rw [normalize?, known]
  exact ⟨_, rfl, rfl⟩

section NoEndLine

variable (endless : message.endLine = none)
include endless

theorem stop_line_location : message.location.stop.line.toInt = 0 := by
  rw [location, endless]
  rfl

/-- The location ends above its start and flags nothing. -/
theorem not_flags_location (positive : 1 ≤ message.line.toInt) (number : Int) :
    ¬Flags message.location number := by
  rintro ⟨above, below⟩
  rw [stop_line_location endless] at below
  change message.line.toInt ≤ number at above
  omega

end NoEndLine

/-- A frame without marks around a line: it ends with line 3 of the text. -/
structure QuietFrame (lines : List (List Char)) (line : Int) (frame : List Char)
    (blocks : List Block) (width : Nat) : Prop where
  numbers : ∀ number : Int, number ∈ blocks.map Block.number ↔
    max 1 (line - 2) ≤ number ∧ number ≤ min (lines.length : Int) 3
  ascending : (blocks.map Block.number).Pairwise (· < ·)
  /-- A space stands where the mark of a flagged line would be. -/
  quiet : ∀ block ∈ blocks, ∃ text lead : List Char,
    lines[(block.number - 1).toNat]? = some text ∧
    ShowsLine block.row lead ' ' width block.number.toNat text
  /-- No row of carets stands between the rows. -/
  whole : frame = ['\n'].intercalate (blocks.map Block.row)
  /-- The line itself is shown only if it is one of the first three. -/
  shown_iff : line ∈ blocks.map Block.number ↔ line ≤ 3
  empty_iff : frame = [] ↔ 6 ≤ line

/-- A frame with a row is not empty. -/
theorem intercalate_eq_nil_iff {rows : List (List Char)} (filled : ∀ row ∈ rows, row ≠ []) :
    ['\n'].intercalate rows = [] ↔ rows = [] := by
  cases rows with
  | nil => simp
  | cons row rows =>
      have first := filled row List.mem_cons_self
      cases rows <;> simp [List.intercalate_cons_cons, first]

/-- The frame of a message without an end line. -/
theorem quietFrame_render (source : String) (endless : message.endLine = none)
    (positive : 1 ≤ message.line.toInt)
    (inside : message.line.toInt ≤ (splitLines source.toList).length) :
    ∃ (blocks : List Block) (width : Nat),
      QuietFrame (splitLines source.toList) message.line.toInt
        (CodeFrame.render source message.location).decorated.toList blocks width := by
  let shown := shownLines source.toList message.location
  have numbers (number : Int) : number ∈ (blocksOf shown).map Block.number ↔
      max 1 (message.line.toInt - 2) ≤ number ∧
        number ≤ min ((splitLines source.toList).length : Int) 3 := by
    rw [mem_numbers_blocksOf_iff, stop_line_location endless]
    rfl
  have shows : ∀ block ∈ blocksOf shown,
      block.Shows (splitLines source.toList) message.location (numberWidth shown) :=
    fun block => shows_of_mem_blocksOf
  have unmarked : ∀ block ∈ blocksOf shown, block.carets = none := by
    intro block member
    have carets := (shows block member).hasCarets.not.mpr
      fun flagged => not_flags_location endless positive _ flagged.1
    simpa using carets
  have whole : (CodeFrame.render source message.location).decorated.toList =
      ['\n'].intercalate ((blocksOf shown).map Block.row) := by
    rw [CodeFrame.decorated_eq, ← flatMap_rows_blocksOf, List.map_eq_flatMap]
    exact congrArg _ (List.flatMap_congr fun block member => by
      rw [Block.rows, unmarked block member, Option.toList_none])
  refine ⟨blocksOf shown, numberWidth shown, ?_⟩
  constructor
  case numbers => exact numbers
  case ascending => exact blocksOf_ascending source.toList message.location
  case quiet =>
    intro block member
    obtain ⟨text, lead, mark, there, row, either, flagged⟩ := (shows block member).line
    have space : mark = ' ' := either.resolve_left fun marked =>
      not_flags_location endless positive _ (flagged.mp marked)
    exact ⟨text, lead, there, space ▸ row⟩
  case whole => exact whole
  case shown_iff =>
    rw [numbers]
    omega
  case empty_iff =>
    have filled : ∀ row ∈ (blocksOf shown).map Block.row, row ≠ [] := by
      simp [blocksOf, ShownLine.block, indent]
    rw [whole, intercalate_eq_nil_iff filled, List.map_eq_nil_iff]
    constructor
    · intro none
      have first := numbers (max 1 (message.line.toInt - 2))
      simp only [none, List.map_nil, List.not_mem_nil, false_iff] at first
      omega
    · intro far
      rw [List.eq_nil_iff_forall_not_mem]
      intro block member
      have within := (numbers block.number).mp (List.mem_map_of_mem member)
      omega

/-- **A message without an end line has a frame without marks, and without its own line
from line 4 on.** -/
theorem quiet_frame_of_no_endLine {result : LintResult} (reported : message ∈ result.messages)
    (enabled : message.severity ≠ 0) (endless : message.endLine = none)
    (positive : 1 ≤ message.line.toInt)
    (inside : message.line.toInt ≤ (splitLines (result.source.getD "").toList).length) :
    ∃ (record : Record) (frame : String) (blocks : List Block) (width : Nat),
      record ∈ result.normalize ∧
      message.normalize? result.filePath (result.source.getD "") = some record ∧
      record.codeFrame = some frame ∧
      QuietFrame (splitLines (result.source.getD "").toList) message.line.toInt frame.toList
        blocks width := by
  obtain ⟨record, made, frame⟩ :=
    exists_normalize? result.filePath (result.source.getD "") enabled
  obtain ⟨blocks, width, quiet⟩ :=
    quietFrame_render (result.source.getD "") endless positive inside
  exact ⟨record, _, blocks, width, List.mem_filterMap.mpr ⟨message, reported, made⟩, made, frame,
    quiet⟩

/-- A message on a line of a text of six lines. -/
def onLine (line : Int64) : LintMessage :=
  { ruleId := some "semi", severity := 2, message := "Missing semicolon.", line, column := 1 }

/-- A report of one message about a text of six lines. -/
def sixLines (line : Int64) : LintResult :=
  { filePath := "a.js", messages := [onLine line], source := some "a\nb\nc\nd\ne\nf" }

theorem quiet_frame_onLine_two :
    onLine 2 ∈ (sixLines 2).messages ∧ (onLine 2).severity ≠ 0 ∧ (onLine 2).endLine = none ∧
    ∃ (record : Record) (frame : String) (blocks : List Block) (width : Nat),
      record ∈ (sixLines 2).normalize ∧
      (onLine 2).normalize? "a.js" "a\nb\nc\nd\ne\nf" = some record ∧
      record.codeFrame = some frame ∧
      QuietFrame (splitLines "a\nb\nc\nd\ne\nf".toList) 2 frame.toList blocks width := by
  have reported : onLine 2 ∈ (sixLines 2).messages := List.mem_singleton_self _
  exact ⟨reported, by decide, rfl, @quiet_frame_of_no_endLine (onLine 2) (sixLines 2) reported
    (by decide) rfl (by decide) (by decide)⟩

/-- The last line of the text is not shown, nor any other. -/
theorem frame_onLine_six :
    (onLine 6).severity ≠ 0 ∧ (onLine 6).endLine = none ∧ 1 ≤ (onLine 6).line.toInt ∧
    (onLine 6).line.toInt ≤ (splitLines "a\nb\nc\nd\ne\nf".toList).length ∧
    (sixLines 6).normalize.map Record.codeFrame = [some ""] := by
  refine ⟨by decide, rfl, by decide, by decide, ?_⟩
  rfl

end DiagnosticReport.LintMessage
