import DiagnosticReport.Proofs.Frame.Shown
import DiagnosticReport.Proofs.Text.EscapeSeparation
import Mathlib.Data.List.Basic

/-!
# The plain frame

The plain frame is laid out like the decorated one, without ink, and shows each
line without the escape sequences of its own text. The line as it stands in the
source still decides whether there is anything behind its gutter and where its
carets stand.

Removing the escape sequences of the decorated frame in one pass gives exactly
this plain frame (`stripped_eq_plain`). Each sequence of the ink ends where the
renderer ended it, because a separator or the mark `>` stands behind it, and no
sequence of the source gets past the line feed behind its row.
-/

set_option autoImplicit false

namespace DiagnosticReport.Frame

open DiagnosticReport.Text

/-! ## Rows without escape sequences -/

/-- What stands behind a gutter of the plain frame: the line without its escape
sequences behind a space, or nothing for an empty line. -/
def plainBody (text : List Char) : List Char :=
  if text.isEmpty then [] else ' ' :: stripEscapes text

/-- The row of a line in the plain frame, behind its mark or a space. -/
def plainRow (mark : Char) (width : Nat) (line : ShownLine) : List Char :=
  mark :: (gutter width (digits line.number) ++ plainBody line.text)

/-- The rows of a shown line in the plain frame. -/
def ShownLine.plainRows (width : Nat) (line : ShownLine) : List (List Char) :=
  match line.marker with
  | .none => [plainRow ' ' width line]
  | some .line => [plainRow '>' width line]
  | some (.columns column length) =>
      [plainRow '>' width line, caretRow .none width line.text column length]

/-- The rows of the plain frame of a list of shown lines. -/
def plainRows (lines : List ShownLine) : List (List Char) :=
  lines.flatMap (ShownLine.plainRows (numberWidth lines))

/-- The plain frame of a location. -/
def drawPlain (source : List Char) (location : Location) : List Char :=
  layout (plainRows (shownLines source location))

/-! ## The ink of the terminal -/

theorem stripEscapes_gutterInk : stripEscapes Ink.terminal.gutter = [] := by cbv

theorem stripEscapes_gutterEnd : stripEscapes Ink.terminal.gutterEnd = [] := by cbv

theorem stripEscapes_mark : stripEscapes Ink.terminal.mark = [] := by cbv

theorem stripEscapes_markEnd : stripEscapes Ink.terminal.markEnd = [] := by cbv

/-- The mark `>` could close a numeric tail, but the sequence in front of it is
closed already. -/
theorem stripEscapes_markedLead :
    stripEscapes (Ink.terminal.mark ++ '>' :: (Ink.terminal.markEnd ++ Ink.terminal.gutter)) =
      ['>'] := by cbv

/-! ## The parts of a row -/

theorem isDigit_of_mem_digits {number : Nat} {character : Char}
    (member : character ∈ digits number) : character.isDigit = true := by
  rw [digits, Nat.toString_eq_ofList_toDigits, String.toList_ofList] at member
  exact Nat.isDigit_of_mem_toDigits (by decide) (by decide) member

theorem startsEscape_of_mem_digits {number : Nat} {character : Char}
    (member : character ∈ digits number) : startsEscape character = false := by
  have digit := isDigit_of_mem_digits member
  cases starts : startsEscape character with
  | false => rfl
  | true =>
      simp only [startsEscape, Bool.or_eq_true, beq_iff_eq] at starts
      rcases starts with rfl | rfl
      · exact absurd digit (by decide)
      · exact absurd digit (by decide)

/-- The filler in front of carets holds spaces and tabs only. -/
theorem eq_of_mem_filler {text : List Char} {column : Int} {character : Char}
    (member : character ∈ filler text column) : character = ' ' ∨ character = '\t' := by
  obtain ⟨original, -, rfl⟩ := List.mem_map.mp member
  split
  · exact .inr rfl
  · exact .inl rfl

theorem startsEscape_of_mem_filler {text : List Char} {column : Int} {character : Char}
    (member : character ∈ filler text column) : startsEscape character = false := by
  rcases eq_of_mem_filler member with rfl | rfl
  · decide
  · decide

theorem one_le_caretCount (lineLength : Nat) (column length : Int) :
    1 ≤ caretCount lineLength column length := by
  unfold caretCount
  omega

/-- A gutter up to its bar. -/
def gutterFront (width : Nat) (label : List Char) : List Char :=
  ' ' :: (List.replicate (width - label.length) ' ' ++ label ++ [' '])

theorem gutter_eq (width : Nat) (label : List Char) :
    gutter width label = gutterFront width label ++ ['|'] := by
  simp [gutter, gutterFront]

/-- In front of its bar a gutter holds spaces and its label. -/
theorem mem_gutterFront {width : Nat} {label : List Char} {character : Char}
    (member : character ∈ gutterFront width label) : character = ' ' ∨ character ∈ label := by
  simp only [gutterFront, List.mem_cons, List.mem_append, List.mem_replicate, List.not_mem_nil,
    or_false] at member
  rcases member with space | (⟨-, space⟩ | labelled) | space
  · exact .inl space
  · exact .inl space
  · exact .inr labelled
  · exact .inl space

theorem startsEscape_of_mem_gutter {width : Nat} {label : List Char}
    (plain : ∀ character ∈ label, startsEscape character = false) {character : Char}
    (member : character ∈ gutter width label) : startsEscape character = false := by
  rw [gutter_eq, List.mem_append, List.mem_singleton] at member
  rcases member with front | rfl
  · rcases mem_gutterFront front with rfl | labelled
    · decide
    · exact plain character labelled
  · decide

/-- A gutter is a space, characters in which no sequence starts, and a bar. It
cuts the removal of sequences off from what stands in front of it and behind
it. -/
theorem stripEscapes_around_gutter (width : Nat) {label : List Char}
    (plain : ∀ character ∈ label, startsEscape character = false) (lead rest : List Char) :
    stripEscapes (lead ++ (gutter width label ++ rest)) =
      stripEscapes lead ++ (gutter width label ++ stripEscapes rest) := by
  have inside : ∀ character ∈ List.replicate (width - label.length) ' ' ++ label ++ [' '],
      startsEscape character = false := by
    intro character member
    rcases mem_gutterFront (List.mem_cons_of_mem ' ' member) with rfl | labelled
    · decide
    · exact plain character labelled
  have cut : ∀ others : List Char, gutter width label ++ others =
      ' ' :: ((List.replicate (width - label.length) ' ' ++ label ++ [' ']) ++ '|' :: others) := by
    intro others
    simp [gutter]
  rw [cut, cut, stripEscapes_append_separator (by decide),
    stripEscapes_append_separator (by decide), stripEscapes_of_no_start inside]

theorem stripEscapes_gutterEnd_body (text : List Char) :
    stripEscapes (Ink.terminal.gutterEnd ++ body text) = plainBody text := by
  unfold body plainBody
  split
  · rw [List.append_nil, stripEscapes_gutterEnd]
  · rw [stripEscapes_append_separator (by decide), stripEscapes_gutterEnd, List.nil_append]

/-! ## Whole rows -/

theorem stripEscapes_quietRow (width : Nat) (line : ShownLine) :
    stripEscapes (quietRow .terminal width line) = plainRow ' ' width line := by
  have lead : stripEscapes (' ' :: Ink.terminal.gutter) = [' '] := by
    rw [stripEscapes_plain (by decide), stripEscapes_gutterInk]
  have parts : quietRow .terminal width line = (' ' :: Ink.terminal.gutter) ++
      (gutter width (digits line.number) ++ (Ink.terminal.gutterEnd ++ body line.text)) := by
    simp [quietRow]
  rw [parts, stripEscapes_around_gutter width fun _ => startsEscape_of_mem_digits, lead,
    stripEscapes_gutterEnd_body, List.singleton_append, plainRow]

theorem stripEscapes_flaggedRow (width : Nat) (line : ShownLine) :
    stripEscapes (flaggedRow .terminal width line) = plainRow '>' width line := by
  have parts : flaggedRow .terminal width line =
      (Ink.terminal.mark ++ '>' :: (Ink.terminal.markEnd ++ Ink.terminal.gutter)) ++
      (gutter width (digits line.number) ++ (Ink.terminal.gutterEnd ++ body line.text)) := by
    simp [flaggedRow]
  rw [parts, stripEscapes_around_gutter width fun _ => startsEscape_of_mem_digits,
    stripEscapes_markedLead, stripEscapes_gutterEnd_body, List.singleton_append, plainRow]

/-- The carets stand between two sequences of the ink, of which the first ends at
the first caret and the second starts behind the last. -/
theorem stripEscapes_carets (text : List Char) (column length : Int) :
    stripEscapes (filler text column ++ Ink.terminal.mark ++
        List.replicate (caretCount text.length column length) '^' ++ Ink.terminal.markEnd) =
      filler text column ++ List.replicate (caretCount text.length column length) '^' := by
  obtain ⟨more, count⟩ := Nat.exists_eq_add_of_le' (one_le_caretCount text.length column length)
  have plain : ∀ character ∈ List.replicate more '^', startsEscape character = false := by
    intro character member
    rw [List.eq_of_mem_replicate member]
    decide
  rw [count, List.replicate_succ, List.append_assoc, List.cons_append,
    stripEscapes_append_separator (by decide),
    stripEscapes_append_of_no_start _ fun _ => startsEscape_of_mem_filler, stripEscapes_mark,
    stripEscapes_append_of_no_start _ plain, stripEscapes_markEnd, List.append_nil,
    List.append_nil]

theorem stripEscapes_caretRow (width : Nat) (text : List Char) (column length : Int) :
    stripEscapes (caretRow .terminal width text column length) =
      caretRow .none width text column length := by
  have lead : stripEscapes (' ' :: Ink.terminal.gutter) = [' '] := by
    rw [stripEscapes_plain (by decide), stripEscapes_gutterInk]
  have parts : caretRow .terminal width text column length = (' ' :: Ink.terminal.gutter) ++
      (gutter width [] ++ (Ink.terminal.gutterEnd ++ ' ' :: (filler text column ++
        Ink.terminal.mark ++ List.replicate (caretCount text.length column length) '^' ++
        Ink.terminal.markEnd))) := by
    simp [caretRow]
  rw [parts, stripEscapes_around_gutter width (by simp), lead,
    stripEscapes_append_separator (by decide), stripEscapes_gutterEnd, stripEscapes_carets]
  simp [caretRow, Ink.none]

/-- Removing the escape sequences of the rows of a shown line gives its plain
rows. -/
theorem stripEscapes_rows (width : Nat) (line : ShownLine) :
    (line.rows .terminal width).map stripEscapes = line.plainRows width := by
  obtain ⟨number, text, marker⟩ := line
  cases marker with
  | none => simp [ShownLine.rows, ShownLine.plainRows, stripEscapes_quietRow]
  | some marker =>
      cases marker with
      | line => simp [ShownLine.rows, ShownLine.plainRows, stripEscapes_flaggedRow]
      | columns column length =>
          simp [ShownLine.rows, ShownLine.plainRows, stripEscapes_flaggedRow,
            stripEscapes_caretRow]

/-! ## Whole frames -/

theorem stripEscapes_layout (rows : List (List Char)) :
    stripEscapes (layout rows) = layout (rows.map stripEscapes) := by
  have indented : ∀ row : List Char,
      stripEscapes (' ' :: ' ' :: row) = ' ' :: ' ' :: stripEscapes row := by
    intro row
    rw [stripEscapes_plain (by decide), stripEscapes_plain (by decide)]
  rw [layout, stripEscapes_intercalate (by decide), layout, List.map_map, List.map_map]
  congr 1
  exact List.map_congr_left fun row _ => indented row

/-- Removing the escape sequences of the decorated frame gives the plain one. -/
theorem stripEscapes_draw_terminal (source : List Char) (location : Location) :
    stripEscapes (draw .terminal source location) = drawPlain source location := by
  rw [draw, stripEscapes_layout, drawPlain, rows, plainRows, List.map_flatMap]
  simp only [stripEscapes_rows]

/-- Without escape sequences in its text a line has the same plain rows as rows
without ink. -/
theorem plainRows_of_no_start (width : Nat) {line : ShownLine}
    (plain : ∀ character ∈ line.text, startsEscape character = false) :
    line.plainRows width = line.rows .none width := by
  have sameBody : plainBody line.text = body line.text := by
    rw [plainBody, body, stripEscapes_of_no_start plain]
  obtain ⟨number, text, marker⟩ := line
  simp only at sameBody
  cases marker with
  | none => simp [ShownLine.plainRows, ShownLine.rows, plainRow, quietRow, Ink.none, sameBody]
  | some marker =>
      cases marker with
      | line =>
          simp [ShownLine.plainRows, ShownLine.rows, plainRow, flaggedRow, Ink.none, sameBody]
      | columns column length =>
          simp [ShownLine.plainRows, ShownLine.rows, plainRow, flaggedRow, Ink.none, sameBody]

/-- A source without escape sequences is shown in full. -/
theorem drawPlain_of_no_start {source : List Char}
    (plain : ∀ character ∈ source, startsEscape character = false) (location : Location) :
    drawPlain source location = draw .none source location := by
  have sameRows : plainRows (shownLines source location) =
      rows .none (shownLines source location) := by
    refine List.flatMap_congr fun line member => ?_
    exact plainRows_of_no_start _ fun character inside =>
      plain character (mem_source_of_mem_text member inside)
  rw [drawPlain, sameRows, draw]

end DiagnosticReport.Frame

namespace DiagnosticReport.CodeFrame

open DiagnosticReport.Text

/-- The rows of the stripped frame are those of the decorated one without their escape
sequences. -/
theorem splitOn_stripped (source : String) (location : Location) :
    (render source location).stripped.toList.splitOn '\n' =
      ((render source location).decorated.toList.splitOn '\n').map stripEscapes := by
  rw [render, String.toList_ofList, String.toList_ofList]
  exact splitOn_stripEscapes (by decide) _

/-- **The stripped frame is the plain frame.** Row by row it is the decorated
frame without escape sequences, so that no row break is lost, and for a source
without escape sequences it is the frame drawn without ink. -/
theorem stripped_eq_plain (source : String) (location : Location) :
    (render source location).stripped =
      String.ofList (Frame.drawPlain source.toList location) ∧
    (render source location).stripped.toList.splitOn '\n' =
      ((render source location).decorated.toList.splitOn '\n').map stripEscapes ∧
    ((∀ character ∈ source.toList, startsEscape character = false) →
      (render source location).stripped =
        String.ofList (Frame.draw .none source.toList location)) := by
  have whole : (render source location).stripped =
      String.ofList (Frame.drawPlain source.toList location) := by
    rw [render, Frame.stripEscapes_draw_terminal]
  refine ⟨whole, ?_, ?_⟩
  · exact splitOn_stripped source location
  · intro plain
    rw [whole, Frame.drawPlain_of_no_start plain]

/-- A frame of a source without escape sequences. -/
theorem stripped_of_two_lines :
    (∀ character ∈ "if\n\tx".toList, startsEscape character = false) ∧
      (render "if\n\tx" ⟨⟨2, 2⟩, ⟨2, 3⟩⟩).stripped =
        "    1 | if\n  > 2 | \tx\n      | \t^" := by
  have plain : ∀ character ∈ "if\n\tx".toList, startsEscape character = false := by
    simp [startsEscape]
  refine ⟨plain, ?_⟩
  rw [(stripped_eq_plain "if\n\tx" ⟨⟨2, 2⟩, ⟨2, 3⟩⟩).2.2 plain]
  rfl

end DiagnosticReport.CodeFrame
