import DiagnosticReport.Proofs.Frame.Rows

/-!
# The window of a frame

The decorated frame is a list of blocks, one for each line of the window: the row
of the line and, for some flagged lines, a row of carets. The window and the flags
are told from the location in exact numbers, whatever the clamps of the renderer
are for.

The results:

* `exists_number_iff`: which numbers the window has;
* `isSome_marker?_iff`, `exists_columns_iff`: which lines are flagged, and which of
  them have carets;
* `shows_window`: the frame is the blocks of these lines, and their bars stand in
  one column.
-/

set_option autoImplicit false

namespace DiagnosticReport.Frame

open DiagnosticReport.Text

/-! ## Which lines are shown and flagged -/

/-- A location flags the lines from its first one to its last one. -/
def Flags (location : Location) (number : Int) : Prop :=
  location.start.line.toInt ≤ number ∧ number ≤ location.stop.line.toInt

/-- A location has no columns if it starts in column zero and ends either there or
on another line. -/
def Columnless (location : Location) : Prop :=
  location.start.column.toInt = 0 ∧
    (location.start.line.toInt ≠ location.stop.line.toInt ∨ location.stop.column.toInt = 0)

/-- The window starts two lines above the location and ends three lines below it,
within the text. -/
theorem exists_number_iff (source : List Char) (location : Location) (number : Int) :
    (∃ line ∈ shownLines source location, (line.number : Int) = number) ↔
      max 1 (location.start.line.toInt - 2) ≤ number ∧
        number ≤ min ((splitLines source).length : Int) (location.stop.line.toInt + 3) := by
  constructor
  · rintro ⟨line, member, rfl⟩
    obtain ⟨above, below, -⟩ := mem_shownLines.mp member
    rw [linesBefore, linesAbove] at above
    rw [lastLine, linesBelow] at below
    omega
  · rintro ⟨above, below⟩
    have inside : number.toNat - 1 < (splitLines source).length := by omega
    refine ⟨⟨number.toNat, (splitLines source)[number.toNat - 1],
      marker? location number.toNat (splitLines source)[number.toNat - 1].length⟩, ?_, ?_⟩
    · refine mem_shownLines.mpr ⟨?_, ?_, List.getElem?_eq_getElem inside, rfl⟩
      · change linesBefore location < number.toNat
        rw [linesBefore, linesAbove]
        omega
      · change number.toNat ≤ lastLine location (splitLines source).length
        rw [lastLine, linesBelow]
        omega
    · change (number.toNat : Int) = number
      omega

/-- **The flagged lines are those of the location**, and none if it ends above its
start. -/
theorem isSome_marker?_iff (location : Location) (number : Int) (length : Nat) :
    (marker? location number length).isSome ↔ Flags location number := by
  -- One case for each branch of the marker.
  simp only [marker?, Flags]
  split_ifs
  all_goals simp
  all_goals omega

/-- **All flagged lines have carets, or none has.** -/
theorem exists_columns_iff (location : Location) (number : Int) (length : Nat) :
    (∃ column count, marker? location number length = some (.columns column count)) ↔
      Flags location number ∧ ¬ Columnless location := by
  simp only [marker?, Flags, Columnless]
  split_ifs
  all_goals simp
  all_goals omega

/-- A location that ends above its start flags nothing. -/
example : (shownLines "a\nb\nc".toList ⟨⟨3, 1⟩, ⟨1, 1⟩⟩).map
    (fun line => (line.number, line.marker)) = [(1, none), (2, none), (3, none)] := by
  decide

/-! ## Blocks -/

/-- The rows of one line of a frame. -/
structure Block where
  /-- The number of the line. -/
  number : Int
  row : List Char
  /-- The row of carets below the line. -/
  carets : Option (List Char)

/-- The rows of a block. -/
def Block.rows (block : Block) : List (List Char) := block.row :: block.carets.toList

/-- A block shows the line of its number. -/
structure Block.Shows (block : Block) (lines : List (List Char)) (location : Location)
    (width : Nat) : Prop where
  /-- The row shows the line behind a mark or a space. The mark is there if the line is
  flagged. -/
  line : ∃ (text lead : List Char) (mark : Char),
    lines[(block.number - 1).toNat]? = some text ∧
    ShowsLine block.row lead mark width block.number.toNat text ∧
    (mark = '>' ∨ mark = ' ') ∧
    (mark = '>' ↔ Flags location block.number)
  /-- A flagged line has carets unless the location has no columns. -/
  hasCarets : block.carets.isSome ↔ Flags location block.number ∧ ¬ Columnless location
  /-- The carets stand behind spaces and tabs. -/
  caretRow : ∀ row ∈ block.carets, ∃ (spacing : List Char) (count : Nat),
    ShowsCarets row width spacing count ∧
    (∀ character ∈ spacing, character = ' ' ∨ character = '\t') ∧
    1 ≤ count

/-- The block of a shown line. -/
def ShownLine.block (width : Nat) (line : ShownLine) : Block :=
  ⟨line.number, indent (line.lead width ++ body line.text), (line.caretRow? width).map indent⟩

theorem ShownLine.rows_block (width : Nat) (line : ShownLine) :
    (line.block width).rows = (line.rows .terminal width).map indent := by
  rw [line.rows_eq, List.map_cons, Block.rows, ShownLine.block]
  cases line.caretRow? width with
  | none => rfl
  | some carets => rfl

/-- The blocks of a list of shown lines. -/
def blocksOf (lines : List ShownLine) : List Block :=
  lines.map (ShownLine.block (numberWidth lines))

/-- The rows of the blocks are those of the frame. -/
theorem flatMap_rows_blocksOf (lines : List ShownLine) :
    (blocksOf lines).flatMap Block.rows = (rows .terminal lines).map indent := by
  rw [blocksOf, List.flatMap_map, rows, List.map_flatMap]
  exact List.flatMap_congr fun line _ => line.rows_block _

/-- The blocks have the numbers of the window. -/
theorem mem_numbers_blocksOf_iff (source : List Char) (location : Location) (number : Int) :
    number ∈ (blocksOf (shownLines source location)).map Block.number ↔
      max 1 (location.start.line.toInt - 2) ≤ number ∧
        number ≤ min ((splitLines source).length : Int) (location.stop.line.toInt + 3) := by
  rw [blocksOf, List.map_map, List.mem_map, ← exists_number_iff]
  rfl

/-- The numbers of the blocks ascend. -/
theorem blocksOf_ascending (source : List Char) (location : Location) :
    ((blocksOf (shownLines source location)).map Block.number).Pairwise (· < ·) := by
  rw [blocksOf, List.map_map, List.pairwise_map]
  exact (shownLines_ascending source location).imp Int.ofNat_lt.mpr

/-- The block of a shown line shows it. -/
theorem ShownLine.shows_block {source : List Char} {location : Location} {line : ShownLine}
    (member : line ∈ shownLines source location) {width : Nat}
    (fits : (digits line.number).length ≤ width) :
    (line.block width).Shows (splitLines source) location width := by
  obtain ⟨above, -, there, marked⟩ := mem_shownLines.mp member
  constructor
  case line =>
    have place : ((line.number : Int) - 1).toNat = line.number - 1 := by omega
    refine ⟨line.text, indent (line.lead width), line.mark, ?_, showsLine fits,
      line.mark_eq_or_eq, ?_⟩
    · rw [block, place, there]
    · rw [line.mark_eq_iff, marked, isSome_marker?_iff]
      rfl
  case hasCarets =>
    rw [block, Option.isSome_map, ← exists_columns_iff location line.number line.text.length,
      ← marked, Option.isSome_iff_exists]
    simp [caretRow?_eq_some_iff]
  case caretRow =>
    intro row inside
    obtain ⟨bare, carets, rfl⟩ := Option.map_eq_some_iff.mp inside
    obtain ⟨column, length, -, rfl⟩ := caretRow?_eq_some_iff.mp carets
    exact ⟨_, _, showsCarets_caretRow _ _ _ _, fun character => eq_of_mem_filler,
      one_le_caretCount _ _ _⟩

/-- Every block of a frame shows its line. -/
theorem shows_of_mem_blocksOf {source : List Char} {location : Location} {block : Block}
    (member : block ∈ blocksOf (shownLines source location)) :
    block.Shows (splitLines source) location (numberWidth (shownLines source location)) := by
  obtain ⟨line, shown, rfl⟩ := List.mem_map.mp member
  exact line.shows_block shown
    (length_digits_le_numberWidth (shownLines_ascending source location) shown)

/-! ## The bars -/

/-- The bar of a seen row stands behind so many characters. -/
def HasBar (place : Nat) (row : List Char) : Prop :=
  ∃ front rest, row = front ++ '|' :: rest ∧ '|' ∉ front ∧ front.length = place

/-- A row with a gutter has its bar there. -/
theorem hasBar_of_gutter {mark : Char} (other : mark ≠ '|') {width : Nat} {label : List Char}
    (plain : '|' ∉ label) (fits : label.length ≤ width) (rest : List Char) :
    HasBar (width + 5) (indent (mark :: (gutter width label ++ rest))) := by
  refine ⟨indent (mark :: gutterFront width label), rest, ?_, ?_, ?_⟩
  · simp [indent, gutter_eq]
  · have front : '|' ∉ gutterFront width label := by
      intro member
      rcases mem_gutterFront member with space | labelled
      · exact absurd space (by decide)
      · exact plain labelled
    simp [indent, front, other.symm]
  · have length := length_gutter fits
    rw [gutter_eq, List.length_append, List.length_singleton] at length
    simp only [indent, List.length_cons]
    omega

/-- **All bars stand in one column**, those of the rows of carets included. -/
theorem hasBar_of_mem_block {lines : List ShownLine}
    (ascending : lines.Pairwise fun upper lower => upper.number < lower.number)
    {line : ShownLine} (member : line ∈ lines) {row : List Char}
    (inside : row ∈ (line.block (numberWidth lines)).rows) :
    HasBar (numberWidth lines + 5) (stripEscapes row) := by
  have fits := length_digits_le_numberWidth ascending member
  rw [Block.rows, List.mem_cons, Option.mem_toList] at inside
  rcases inside with rfl | below
  · have other : line.mark ≠ '|' := by
      rcases line.mark_eq_or_eq with flagged | quiet
      · simp [flagged]
      · simp [quiet]
    rw [ShownLine.block, stripEscapes_indent, line.stripEscapes_row]
    exact hasBar_of_gutter other (notMem_digits (by decide) _) fits _
  · obtain ⟨bare, carets, rfl⟩ := Option.map_eq_some_iff.mp below
    obtain ⟨column, length, -, rfl⟩ := ShownLine.caretRow?_eq_some_iff.mp carets
    rw [stripEscapes_indent, stripEscapes_caretRow, caretRow_none]
    exact hasBar_of_gutter (by decide) (by simp) (Nat.zero_le _) _

/-! ## The whole frame -/

/-- A frame shows the window of a location in blocks whose gutters have this
width. -/
structure ShowsWindow (lines : List (List Char)) (location : Location) (frame : List Char)
    (blocks : List Block) (width : Nat) : Prop where
  /-- The lines are those from two above the location to three below it. -/
  numbers : ∀ number : Int, number ∈ blocks.map Block.number ↔
    max 1 (location.start.line.toInt - 2) ≤ number ∧
      number ≤ min (lines.length : Int) (location.stop.line.toInt + 3)
  /-- Each of them is shown once, the upper ones first. -/
  ascending : (blocks.map Block.number).Pairwise (· < ·)
  shows : ∀ block ∈ blocks, block.Shows lines location width
  /-- Nothing but the blocks is shown. -/
  whole : frame = ['\n'].intercalate (blocks.flatMap Block.rows)
  /-- Their rows are the rows of the frame. -/
  rows : blocks ≠ [] → frame.splitOn '\n' = blocks.flatMap Block.rows
  empty : min (lines.length : Int) (location.stop.line.toInt + 3) <
    max 1 (location.start.line.toInt - 2) → frame = []
  /-- The bars stand in one column. -/
  aligned : ∀ row ∈ blocks.flatMap Block.rows, HasBar (width + 5) (stripEscapes row)

/-- **A frame shows exactly the window of its location**, for every text and every
location. -/
theorem shows_window (source : String) (location : Location) :
    ∃ (blocks : List Block) (width : Nat),
      ShowsWindow (splitLines source.toList) location
        (CodeFrame.render source location).decorated.toList blocks width := by
  refine ⟨blocksOf (shownLines source.toList location),
    numberWidth (shownLines source.toList location), ?_⟩
  constructor
  case numbers => exact mem_numbers_blocksOf_iff source.toList location
  case ascending => exact blocksOf_ascending source.toList location
  case shows => exact fun block => shows_of_mem_blocksOf
  case whole => rw [flatMap_rows_blocksOf, CodeFrame.decorated_eq]
  case rows =>
    intro nonempty
    have shown : shownLines source.toList location ≠ [] := by
      intro none
      rw [none] at nonempty
      exact nonempty rfl
    rw [flatMap_rows_blocksOf, CodeFrame.splitOn_decorated shown]
  case empty =>
    intro inverted
    have none : shownLines source.toList location = [] := by
      rw [List.eq_nil_iff_forall_not_mem]
      intro line member
      have within := (exists_number_iff _ _ _).mp ⟨line, member, rfl⟩
      omega
    rw [CodeFrame.decorated_eq, none]
    rfl
  case aligned =>
    intro row member
    obtain ⟨block, inside, below⟩ := List.mem_flatMap.mp member
    obtain ⟨line, shown, rfl⟩ := List.mem_map.mp inside
    exact hasBar_of_mem_block (shownLines_ascending source.toList location) shown below

end DiagnosticReport.Frame
