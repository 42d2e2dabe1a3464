import DiagnosticReport.Proofs.Frame.Checked
import DiagnosticReport.Proofs.Frame.Rows

/-!
# Carets under their columns

Below a flagged line with columns stands a row of carets. It has a blank lead as
wide as that of the line, and repeats the tabs of the line in front of its first
caret. The display column of a character depends on what stands in front of it, so
the first caret stands under its character whatever the tab stops are
(`carets_below_columns`).

The carets start behind at most the whole line and end with it, except that one
caret may stand behind the line (`spacing_and_carets`).
-/

set_option autoImplicit false

namespace DiagnosticReport.Frame

open DiagnosticReport.Text

/-! ## Display columns -/

/-- The display column behind a character that stands in this column, with tab
stops every `tab` columns. -/
def advance (tab column : Nat) (character : Char) : Nat :=
  if character = '\t' then (column / tab + 1) * tab else column + 1

/-- The display column behind these characters. All but tabs are one column wide. -/
def displayColumn (tab : Nat) (characters : List Char) : Nat :=
  characters.foldl (advance tab) 0

/-- Characters with tabs at the same places lead from one display column to the
same. -/
theorem foldl_advance_eq {first second : List Char}
    (same : List.Forall₂ (fun upper lower => upper = '\t' ↔ lower = '\t') first second)
    (tab column : Nat) :
    first.foldl (advance tab) column = second.foldl (advance tab) column := by
  induction same generalizing column with
  | nil => rfl
  | @cons upper lower _ _ tabs _ ih =>
      have step : advance tab column upper = advance tab column lower := by
        simp only [advance, tabs]
      rw [List.foldl_cons, List.foldl_cons, step, ih]

/-- Without tabs each character takes one column. -/
theorem foldl_advance_of_no_tab {characters : List Char} (plain : '\t' ∉ characters)
    (tab column : Nat) :
    characters.foldl (advance tab) column = column + characters.length := by
  induction characters generalizing column with
  | nil => rfl
  | cons character characters ih =>
      rw [List.mem_cons, not_or] at plain
      rw [List.foldl_cons, advance, if_neg (Ne.symm plain.1), ih plain.2, List.length_cons]
      omega

theorem displayColumn_append (tab : Nat) (first second : List Char) :
    displayColumn tab (first ++ second) = second.foldl (advance tab) (displayColumn tab first) :=
  List.foldl_append

/-! ## The parts of a row of carets -/

theorem length_filler (text : List Char) (column : Int) :
    ((filler text column).length : Int) = min (max (column - 1) 0) text.length := by
  rw [filler, List.length_map, List.length_take]
  omega

/-- Filler has the characters of the line in front of the carets, blanked. -/
theorem filler_eq (text : List Char) (column : Int) :
    filler text column = (text.take (filler text column).length).map fun character =>
      if character == '\t' then '\t' else ' ' := by
  rw [filler, List.length_map, List.length_take, List.take_eq_take_min]

/-- Filler has a tab exactly where the line has one. -/
theorem getElem?_filler {text : List Char} {column : Int} {index : Nat}
    (inside : index < (filler text column).length) :
    (filler text column)[index]? = some (if text[index]? = some '\t' then '\t' else ' ') := by
  have before : index < text.length := by
    have length := length_filler text column
    omega
  rw [filler_eq, List.getElem?_map, List.getElem?_take_of_lt inside,
    List.getElem?_eq_getElem before, Option.map_some]
  simp

theorem tabs_filler (text : List Char) (column : Int) :
    List.Forall₂ (fun upper lower => upper = '\t' ↔ lower = '\t')
      (text.take (filler text column).length) (filler text column) := by
  have blanked (character : Char) :
      character = '\t' ↔ (if character == '\t' then '\t' else ' ') = '\t' := by
    by_cases tab : character = '\t'
    · simp [tab]
    · simp [tab]
  conv => rhs; rw [filler_eq]
  rw [List.forall₂_map_right_iff, List.forall₂_same]
  exact fun character _ => blanked character

theorem toInt_caretCount (lineLength : Nat) (column length : Int) :
    (caretCount lineLength column length : Int) =
      max 1 (min length (lineLength - max column 1 + 1)) := by
  rw [caretCount]
  omega

/-- **Carets stay within the line**, or a single one stands behind it. -/
theorem spacing_and_carets (text : List Char) (column length : Int) :
    (filler text column).length + caretCount text.length column length ≤ text.length ∨
      (caretCount text.length column length = 1 ∧
        (filler text column).length = text.length) := by
  have spacing := length_filler text column
  have carets := toInt_caretCount text.length column length
  omega

/-! ## Leads -/

/-- The lead of a line ends in the same display column, whatever its number is. -/
theorem displayColumn_lead {row lead : List Char} {mark : Char} {width number : Nat}
    {text : List Char} (shows : ShowsLine row lead mark width number text) (other : mark ≠ '\t')
    (tab : Nat) : displayColumn tab (stripEscapes lead) = width + 6 := by
  have plain : '\t' ∉ (toString number).toList := notMem_digits (by decide) number
  have tabless : '\t' ∉ stripEscapes lead := by
    rw [shows.seen]
    generalize (toString number).toList = label at plain ⊢
    simp [plain, other.symm]
  have fits := shows.fits
  rw [displayColumn, foldl_advance_of_no_tab tabless, shows.seen]
  simp only [List.length_append, List.length_replicate, List.length_cons, List.length_nil]
  omega

/-- So does a blank one. -/
theorem displayColumn_blank (width tab : Nat) :
    displayColumn tab (List.replicate (width + 5) ' ' ++ ['|']) = width + 6 := by
  have tabless : '\t' ∉ List.replicate (width + 5) ' ' ++ ['|'] := by simp
  rw [displayColumn, foldl_advance_of_no_tab tabless]
  simp only [List.length_append, List.length_replicate, List.length_cons, List.length_nil]
  omega

/-! ## Carets and their line -/

/-- A row of carets below the row of a line, with the spacing and the number of carets
that a marker asks for within the line. -/
structure CaretsBelow (line : ShownLine) (column length : Int) (row caretRow lead : List Char)
    (width : Nat) (spacing : List Char) (count : Nat) : Prop where
  showsLine : ShowsLine row lead '>' width line.number line.text
  showsCarets : ShowsCarets caretRow width spacing count
  spacingLength : (spacing.length : Int) = min (max (column - 1) 0) line.text.length
  /-- The spacing has a tab exactly where the line has one. -/
  tabs : ∀ index < spacing.length,
    spacing[index]? = some (if line.text[index]? = some '\t' then '\t' else ' ')
  caretCount : (count : Int) = max 1 (min length (line.text.length - max column 1 + 1))
  /-- The length of the marker may as well be the nearest 64-bit number. -/
  clampedCount : line.text.length < 2 ^ 63 →
    (count : Int) =
      max 1 (min (Int64.ofIntClamp length).toInt (line.text.length - max column 1 + 1))
  /-- The carets end with the line, or a single one stands behind it. -/
  within : spacing.length + count ≤ line.text.length ∨
    (count = 1 ∧ spacing.length = line.text.length)
  /-- The first caret stands under a character of the line in its display column. -/
  aligned : ∀ character, line.text[spacing.length]? = some character →
    row = (lead ++ ' ' :: line.text.take spacing.length) ++
      character :: line.text.drop (spacing.length + 1) ∧
    ∀ tab : Nat,
      displayColumn tab (stripEscapes lead ++ ' ' :: line.text.take spacing.length) =
        displayColumn tab ((List.replicate (width + 5) ' ' ++ ['|']) ++ ' ' :: spacing)

/-- A marker with columns starts in a 64-bit column, so a clamped length gives as
many carets. -/
theorem count_clamped {column : Int} (small : column < 2 ^ 63) {lineLength : Nat}
    (short : lineLength < 2 ^ 63) (length : Int) :
    max 1 (min (Int64.ofIntClamp length).toInt (lineLength - max column 1 + 1)) =
      max 1 (min length (lineLength - max column 1 + 1)) := by
  rw [Checked.toInt_ofIntClamp_eq]
  omega

/-- **Carets stand under the flagged columns.** A shown line whose marker has
columns has a row of carets right below it, with the spacing and the number of
carets that the marker asks for within the line. -/
theorem carets_below_columns (source : String) (location : Location) {line : ShownLine}
    {column length : Int} (shown : line ∈ shownLines source.toList location)
    (marked : line.marker = some (.columns column length)) :
    ∃ (above below : List (List Char)) (row caretRow lead : List Char) (width : Nat)
      (spacing : List Char) (count : Nat),
      (CodeFrame.render source location).decorated.toList.splitOn '\n' =
        above ++ row :: caretRow :: below ∧
      CaretsBelow line column length row caretRow lead width spacing count := by
  obtain ⟨width, upper, lower, -, -, split, shows⟩ :=
    CodeFrame.exists_splitOn_of_columns shown marked
  have small : column < 2 ^ 63 := by
    obtain ⟨-, -, -, located⟩ := mem_shownLines.mp shown
    have greatest := location.start.column.toInt_lt
    rcases Checked.column_of_marker? (located.symm.trans marked) with rfl | rfl
    · exact greatest
    · decide
  refine ⟨_, _, indent (line.lead width ++ body line.text),
    indent (caretRow .terminal width line.text column length), indent (line.lead width), width,
    filler line.text column, caretCount line.text.length column length, split, ?_⟩
  constructor
  case showsLine => exact shows
  case showsCarets => exact showsCarets_caretRow width line.text column length
  case spacingLength => exact length_filler line.text column
  case tabs => exact fun index inside => getElem?_filler inside
  case caretCount => exact toInt_caretCount line.text.length column length
  case clampedCount =>
    intro short
    rw [toInt_caretCount, count_clamped small short]
  case within => exact spacing_and_carets line.text column length
  case aligned =>
    intro character here
    have inside := (List.getElem?_eq_some_iff.mp here).1
    refine ⟨?_, ?_⟩
    · have nonempty : line.text ≠ [] := List.ne_nil_of_length_pos (Nat.zero_lt_of_lt inside)
      have cut : line.text = line.text.take (filler line.text column).length ++
          character :: line.text.drop ((filler line.text column).length + 1) := by
        rw [← (List.getElem?_eq_some_iff.mp here).2, ← List.drop_eq_getElem_cons inside,
          List.take_append_drop]
      rw [shows.row_eq, if_neg nonempty]
      conv => lhs; rw [cut]
      simp
    · intro tab
      rw [displayColumn_append, displayColumn_append, displayColumn_lead shows (by decide),
        displayColumn_blank, List.foldl_cons, List.foldl_cons,
        foldl_advance_eq (tabs_filler line.text column)]

/-- A caret behind a tab. -/
theorem carets_below_tabbed :
    ((⟨2, "\tx".toList, some (.columns 2 1)⟩ : ShownLine) ∈
        shownLines "if\n\tx".toList ⟨⟨2, 2⟩, ⟨2, 3⟩⟩) ∧
      ∃ (above below : List (List Char)) (row caretRow lead : List Char) (width : Nat)
        (spacing : List Char) (count : Nat),
        (CodeFrame.render "if\n\tx" ⟨⟨2, 2⟩, ⟨2, 3⟩⟩).decorated.toList.splitOn '\n' =
          above ++ row :: caretRow :: below ∧
        CaretsBelow ⟨2, "\tx".toList, some (.columns 2 1)⟩ 2 1 row caretRow lead width spacing
          count :=
  have shown : (⟨2, "\tx".toList, some (.columns 2 1)⟩ : ShownLine) ∈
      shownLines "if\n\tx".toList ⟨⟨2, 2⟩, ⟨2, 3⟩⟩ := by decide
  ⟨shown, carets_below_columns "if\n\tx" ⟨⟨2, 2⟩, ⟨2, 3⟩⟩ shown rfl⟩

end DiagnosticReport.Frame
