import DiagnosticReport.Proofs.Frame.Window

/-!
# Underlined lines

`Underlined` says what a reader of a frame takes from it: a line with its number
and the mark, and right below it carets behind some spaces and tabs. All lines of
a location that has columns are underlined as far as they are lines of the text
(`exists_underlined`).
-/

set_option autoImplicit false

namespace DiagnosticReport.Frame

open DiagnosticReport.Text

/-- A frame shows a flagged line with this number and text, and so many carets
below it behind this spacing. -/
structure Underlined (frame : List Char) (number : Nat) (text spacing : List Char)
    (count : Nat) : Prop where
  blank : ∀ character ∈ spacing, character = ' ' ∨ character = '\t'
  positive : 1 ≤ count
  /-- A row shows the line with its mark, and the next one the carets. -/
  rows : ∃ (above below : List (List Char)) (row carets lead : List Char) (width : Nat),
    frame.splitOn '\n' = above ++ row :: carets :: below ∧
    ShowsLine row lead '>' width number text ∧
    ShowsCarets carets width spacing count

/-- A frame with an underlined line has at least two rows. -/
theorem Underlined.ne_nil {frame text spacing : List Char} {number count : Nat}
    (underlined : Underlined frame number text spacing count) : frame ≠ [] := by
  rintro rfl
  obtain ⟨above, below, row, carets, lead, width, split, -⟩ := underlined.rows
  have length := congrArg List.length split
  simp only [List.splitOn_nil, List.length_append, List.length_cons, List.length_nil] at length
  omega

/-- A shown line whose marker has columns is underlined as the marker says. -/
theorem underlined_of_shown {source : String} {location : Location} {line : ShownLine}
    {column length : Int} (shown : line ∈ shownLines source.toList location)
    (marked : line.marker = some (.columns column length)) :
    Underlined (CodeFrame.render source location).decorated.toList line.number line.text
      (filler line.text column) (caretCount line.text.length column length) := by
  obtain ⟨width, upper, lower, -, -, split, shows⟩ :=
    CodeFrame.exists_splitOn_of_columns shown marked
  exact ⟨fun character => eq_of_mem_filler, one_le_caretCount _ _ _, _, _, _, _, _, width, split,
    shows, showsCarets_caretRow _ _ _ _⟩

/-- **Every line of a location is underlined** if it is a line of the text and the
location has columns. -/
theorem exists_underlined {source : String} {location : Location} {number : Nat}
    (columns : ¬ Columnless location) (flagged : Flags location number) (positive : 1 ≤ number)
    (inText : number ≤ (splitLines source.toList).length) :
    ∃ text spacing count, (splitLines source.toList)[number - 1]? = some text ∧
      Underlined (CodeFrame.render source location).decorated.toList number text spacing
        count := by
  have inWindow : max 1 (location.start.line.toInt - 2) ≤ number ∧
      (number : Int) ≤ min ((splitLines source.toList).length : Int)
        (location.stop.line.toInt + 3) := by
    obtain ⟨above, below⟩ := flagged
    omega
  obtain ⟨line, shown, same⟩ := (exists_number_iff source.toList location number).mpr inWindow
  obtain rfl : line.number = number := Int.ofNat.inj same
  obtain ⟨-, -, here, located⟩ := mem_shownLines.mp shown
  obtain ⟨column, length, marked⟩ :=
    (exists_columns_iff location line.number line.text.length).mpr ⟨flagged, columns⟩
  exact ⟨line.text, _, _, here, underlined_of_shown shown (located.trans marked)⟩

end DiagnosticReport.Frame
