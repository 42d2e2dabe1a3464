import DiagnosticReport.Proofs.Frame.PlainFrame

/-!
# The rows of a frame

The decorated frame is a list of rows behind line feeds. The row of a line is a
lead, which ends with the bar of the gutter, and the line itself. What is seen of
a lead is the mark and the gutter. A row of carets has a blank lead of the same
width, because every number of a frame fits into its gutter
(`length_digits_le_numberWidth`).

What a reader takes from a row is said without the renderer: `ShowsLine` for the row
of a line, `ShowsCarets` for a row of carets.

No row holds a line feed, so the rows are told apart in the frame
(`splitOn_decorated`), and around the rows of a line stand those of the other lines
(`exists_splitOn_decorated`, `exists_splitOn_of_columns`).
-/

set_option autoImplicit false

namespace DiagnosticReport.Frame

open DiagnosticReport.Text

/-! ## Gutters -/

/-- A number has no more digits than a greater one. -/
theorem length_digits_le {number other : Nat} (le : number ≤ other) :
    (digits number).length ≤ (digits other).length := by
  rw [digits, digits, Nat.toString_eq_ofList_toDigits, Nat.toString_eq_ofList_toDigits,
    String.toList_ofList, String.toList_ofList,
    Nat.length_toDigits_le_iff (by decide) Nat.length_toDigits_pos]
  exact Nat.lt_of_le_of_lt le
    ((Nat.length_toDigits_le_iff (by decide) Nat.length_toDigits_pos).mp (Nat.le_refl _))

/-- The last number of an ascending list is the widest. -/
theorem length_digits_le_numberWidth {lines : List ShownLine}
    (ascending : lines.Pairwise fun upper lower => upper.number < lower.number)
    {line : ShownLine} (member : line ∈ lines) :
    (digits line.number).length ≤ numberWidth lines := by
  obtain ⟨upper, last, rfl⟩ := (List.eq_nil_or_concat' lines).resolve_left
    (List.ne_nil_of_mem member)
  rw [numberWidth, List.getLast?_concat]
  refine length_digits_le ?_
  rcases List.mem_append.mp member with above | here
  · have before := (List.pairwise_append.mp ascending).2.2 line above last (by simp)
    exact Nat.le_of_lt before
  · exact Nat.le_of_eq (congrArg ShownLine.number (List.mem_singleton.mp here))

theorem length_gutter {width : Nat} {label : List Char} (fits : label.length ≤ width) :
    (gutter width label).length = width + 3 := by
  simp only [gutter, List.length_cons, List.length_append, List.length_replicate, List.length_nil]
  omega

/-- A gutter holds spaces, its label and a bar. -/
theorem notMem_gutter {character : Char} (other : character ≠ ' ' ∧ character ≠ '|') {width : Nat}
    {label : List Char} (plain : character ∉ label) : character ∉ gutter width label := by
  rw [gutter_eq, List.mem_append, List.mem_singleton]
  rintro (front | bar)
  · rcases mem_gutterFront front with space | labelled
    · exact other.1 space
    · exact plain labelled
  · exact other.2 bar

theorem notMem_digits {character : Char} (other : character.isDigit = false) (number : Nat) :
    character ∉ digits number := by
  intro member
  rw [isDigit_of_mem_digits member] at other
  cases other

/-! ## Leads -/

namespace ShownLine

/-- What stands in front of a line: its row if the line were empty. -/
def lead (width : Nat) (line : ShownLine) : List Char :=
  match line.marker with
  | none => quietRow .terminal width { line with text := [] }
  | some _ => flaggedRow .terminal width { line with text := [] }

/-- The mark of a flagged line, or a space. -/
def mark (line : ShownLine) : Char := if line.marker.isSome then '>' else ' '

theorem mark_eq_or_eq (line : ShownLine) : line.mark = '>' ∨ line.mark = ' ' := by
  rw [mark]
  split
  · exact .inl rfl
  · exact .inr rfl

/-- Flagged lines have the mark. -/
theorem mark_eq_iff (line : ShownLine) : line.mark = '>' ↔ line.marker.isSome := by
  rw [mark]
  split
  · rename_i flagged
    exact iff_of_true rfl flagged
  · rename_i quiet
    exact iff_of_false (by decide) quiet

/-- The row of carets below a line, if it has one. -/
def caretRow? (width : Nat) (line : ShownLine) : Option (List Char) :=
  match line.marker with
  | some (.columns column length) => some (caretRow .terminal width line.text column length)
  | _ => none

/-- A row of carets comes from a marker with columns. -/
theorem caretRow?_eq_some_iff {width : Nat} {line : ShownLine} {carets : List Char} :
    line.caretRow? width = some carets ↔
      ∃ column length, line.marker = some (.columns column length) ∧
        caretRow .terminal width line.text column length = carets := by
  obtain ⟨number, text, marker⟩ := line
  cases marker with
  | none => simp [caretRow?]
  | some marker =>
      cases marker with
      | line => simp [caretRow?]
      | columns column length => simp [caretRow?]

/-- The rows of a line are its lead with the line behind it, and its carets. -/
theorem rows_eq (width : Nat) (line : ShownLine) :
    line.rows .terminal width =
      (line.lead width ++ body line.text) :: (line.caretRow? width).toList := by
  obtain ⟨number, text, marker⟩ := line
  cases marker with
  | none => simp [rows, lead, caretRow?, quietRow, body]
  | some marker =>
      cases marker with
      | line => simp [rows, lead, caretRow?, flaggedRow, body]
      | columns column length => simp [rows, lead, caretRow?, flaggedRow, body]

/-- What is seen of a lead is the mark and the gutter. -/
theorem stripEscapes_lead (width : Nat) (line : ShownLine) :
    stripEscapes (line.lead width) = line.mark :: gutter width (digits line.number) := by
  rw [lead, mark]
  cases line.marker with
  | none =>
      rw [stripEscapes_quietRow]
      simp [plainRow, plainBody]
  | some marker =>
      rw [stripEscapes_flaggedRow]
      simp [plainRow, plainBody]

/-- A row is seen as its lead with what is seen of the line. -/
theorem stripEscapes_row (width : Nat) (line : ShownLine) :
    stripEscapes (line.lead width ++ body line.text) =
      line.mark :: (gutter width (digits line.number) ++ plainBody line.text) := by
  have seen := stripEscapes_rows width line
  have plain : ∃ below, line.plainRows width = plainRow line.mark width line :: below := by
    obtain ⟨number, text, marker⟩ := line
    cases marker with
    | none => exact ⟨_, rfl⟩
    | some marker =>
        cases marker with
        | line => exact ⟨_, rfl⟩
        | columns column length => exact ⟨_, rfl⟩
  obtain ⟨below, plain⟩ := plain
  rw [rows_eq, List.map_cons, plain] at seen
  exact (List.cons.inj seen).1

end ShownLine

/-! ## What is seen of a row -/

/-- What is seen of a row of carets. -/
theorem caretRow_none (width : Nat) (text : List Char) (column length : Int) :
    caretRow .none width text column length =
      ' ' :: (gutter width [] ++ ' ' :: (filler text column ++
        List.replicate (caretCount text.length column length) '^')) := by
  simp [caretRow, Ink.none]

/-- A row behind its indentation. -/
def indent (row : List Char) : List Char := ' ' :: ' ' :: row

theorem stripEscapes_indent (row : List Char) :
    stripEscapes (indent row) = indent (stripEscapes row) := by
  rw [indent, stripEscapes_plain (by decide), stripEscapes_plain (by decide), indent]

/-- A blank gutter is spaces and a bar. -/
theorem indent_gutter_nil (width : Nat) :
    indent (' ' :: gutter width []) = List.replicate (width + 5) ' ' ++ ['|'] := by
  have front : gutterFront width [] = List.replicate (width + 2) ' ' := by
    rw [gutterFront, List.append_nil, List.length_nil, Nat.sub_zero, ← List.replicate_succ',
      ← List.replicate_succ]
  rw [gutter_eq, front]
  rfl

/-- A row shows a line behind a lead. Of the lead are seen two spaces, the mark, the
number at the right end of `width` columns, and a bar. One more space and the line
follow, or nothing if the line is empty. -/
structure ShowsLine (row lead : List Char) (mark : Char) (width number : Nat)
    (text : List Char) : Prop where
  row_eq : row = lead ++ if text = [] then [] else ' ' :: text
  fits : (toString number).toList.length ≤ width
  seen : stripEscapes lead = [' ', ' ', mark, ' '] ++
    List.replicate (width - (toString number).toList.length) ' ' ++
      (toString number).toList ++ [' ', '|']

/-- A row shows carets. Spaces and a bar are seen of it, one more space, the spacing and
so many carets. The bar stands below those of the lines whose numbers have `width`
columns. -/
def ShowsCarets (row : List Char) (width : Nat) (spacing : List Char) (count : Nat) : Prop :=
  stripEscapes row =
    List.replicate (width + 5) ' ' ++ ['|', ' '] ++ spacing ++ List.replicate count '^'

theorem body_eq (text : List Char) : body text = if text = [] then [] else ' ' :: text := by
  cases text with
  | nil => rfl
  | cons character text => rfl

/-- The row of a line shows it. -/
theorem ShownLine.showsLine {width : Nat} {line : ShownLine}
    (fits : (digits line.number).length ≤ width) :
    ShowsLine (indent (line.lead width ++ body line.text)) (indent (line.lead width)) line.mark
      width line.number line.text := by
  constructor
  case row_eq =>
    rw [← body_eq]
    rfl
  case fits => exact fits
  case seen =>
    rw [stripEscapes_indent, line.stripEscapes_lead]
    simp [indent, gutter, digits]

/-- The row of carets of a marker shows as many as the line has room for. -/
theorem showsCarets_caretRow (width : Nat) (text : List Char) (column length : Int) :
    ShowsCarets (indent (caretRow .terminal width text column length)) width
      (filler text column) (caretCount text.length column length) := by
  have blank (rest : List Char) : indent (' ' :: (gutter width [] ++ rest)) =
      List.replicate (width + 5) ' ' ++ ['|'] ++ rest := by
    rw [← indent_gutter_nil]
    rfl
  rw [ShowsCarets, stripEscapes_indent, stripEscapes_caretRow, caretRow_none, blank]
  simp

/-! ## Line feeds -/

/-- No sequence of the ink breaks a row. -/
theorem lineFeed_notMem_ink :
    '\n' ∉ Ink.terminal.gutter ∧ '\n' ∉ Ink.terminal.gutterEnd ∧
      '\n' ∉ Ink.terminal.mark ∧ '\n' ∉ Ink.terminal.markEnd := by decide

theorem lineFeed_notMem_lead (width : Nat) (line : ShownLine) : '\n' ∉ line.lead width := by
  obtain ⟨gutterInk, gutterEnd, mark, markEnd⟩ := lineFeed_notMem_ink
  have numbered : '\n' ∉ gutter width (digits line.number) :=
    notMem_gutter (by decide) (notMem_digits (by decide) line.number)
  rw [ShownLine.lead]
  split
  · simp [quietRow, body, gutterInk, gutterEnd, numbered]
  · simp [flaggedRow, body, gutterInk, gutterEnd, mark, markEnd, numbered]

theorem lineFeed_notMem_filler (text : List Char) (column : Int) :
    '\n' ∉ filler text column := by
  intro member
  rcases eq_of_mem_filler member with space | tab
  · exact absurd space (by decide)
  · exact absurd tab (by decide)

theorem lineFeed_notMem_caretRow (width : Nat) (text : List Char) (column length : Int) :
    '\n' ∉ caretRow .terminal width text column length := by
  obtain ⟨gutterInk, gutterEnd, mark, markEnd⟩ := lineFeed_notMem_ink
  have blank : '\n' ∉ gutter width [] := notMem_gutter (by decide) (by simp)
  simp [caretRow, gutterInk, gutterEnd, mark, markEnd, blank, lineFeed_notMem_filler]

/-- A shown line holds no line feed. -/
theorem lineFeed_notMem_text {source : List Char} {location : Location} {line : ShownLine}
    (member : line ∈ shownLines source location) : '\n' ∉ line.text := by
  intro inside
  obtain ⟨-, -, there, -⟩ := mem_shownLines.mp member
  have unbroken := ((cut_splitLines source).mem_of_mem_line (List.mem_of_getElem? there) inside).2
  exact absurd unbroken (by decide)

/-- No row of a frame holds a line feed. -/
theorem lineFeed_notMem_row {source : List Char} {location : Location} {row : List Char}
    (member : row ∈ (rows .terminal (shownLines source location)).map indent) : '\n' ∉ row := by
  obtain ⟨bare, inside, rfl⟩ := List.mem_map.mp member
  obtain ⟨line, shown, below⟩ := List.mem_flatMap.mp inside
  have unbroken : '\n' ∉ bare := by
    rw [line.rows_eq, List.mem_cons, Option.mem_toList] at below
    rcases below with rfl | carets
    · have text := lineFeed_notMem_text shown
      rw [List.mem_append, not_or, body]
      refine ⟨lineFeed_notMem_lead _ line, ?_⟩
      split
      · simp
      · simp [text]
    · obtain ⟨column, length, -, rfl⟩ := ShownLine.caretRow?_eq_some_iff.mp carets
      exact lineFeed_notMem_caretRow _ _ column length
  simp [indent, unbroken]

end DiagnosticReport.Frame

namespace DiagnosticReport.CodeFrame

open DiagnosticReport.Frame

/-- The decorated frame is its rows with line feeds between them. -/
theorem decorated_eq (source : String) (location : Location) :
    (render source location).decorated.toList =
      ['\n'].intercalate ((rows .terminal (shownLines source.toList location)).map indent) := by
  rw [render, String.toList_ofList]
  rfl

/-- The rows are told apart in the decorated frame. -/
theorem splitOn_decorated {source : String} {location : Location}
    (nonempty : shownLines source.toList location ≠ []) :
    (render source location).decorated.toList.splitOn '\n' =
      (rows .terminal (shownLines source.toList location)).map indent := by
  obtain ⟨line, lines, first⟩ := List.exists_cons_of_ne_nil nonempty
  rw [decorated_eq]
  refine List.splitOn_intercalate '\n' (fun row => lineFeed_notMem_row) ?_
  rw [rows, first, List.flatMap_cons, line.rows_eq]
  simp

/-- The rows of a shown line stand one below the other in the decorated frame, between
the rows of the lines above it and below it. -/
theorem exists_splitOn_decorated {source : String} {location : Location} {line : ShownLine}
    (shown : line ∈ shownLines source.toList location) :
    ∃ (width : Nat) (upper lower : List ShownLine),
      shownLines source.toList location = upper ++ line :: lower ∧
      (∀ other ∈ shownLines source.toList location, (digits other.number).length ≤ width) ∧
      (render source location).decorated.toList.splitOn '\n' =
        (upper.flatMap (ShownLine.rows .terminal width)).map indent ++
          ((line.rows .terminal width).map indent ++
            (lower.flatMap (ShownLine.rows .terminal width)).map indent) := by
  obtain ⟨upper, lower, lines⟩ := List.append_of_mem shown
  refine ⟨numberWidth (shownLines source.toList location), upper, lower, lines,
    fun other member => length_digits_le_numberWidth (shownLines_ascending _ _) member, ?_⟩
  rw [splitOn_decorated (List.ne_nil_of_mem shown), rows]
  generalize numberWidth (shownLines source.toList location) = width
  rw [lines, List.flatMap_append, List.flatMap_cons, List.map_append, List.map_append]

/-- A line whose marker has columns is shown with the mark, and a row of carets stands
right below it. -/
theorem exists_splitOn_of_columns {source : String} {location : Location} {line : ShownLine}
    {column length : Int} (shown : line ∈ shownLines source.toList location)
    (marked : line.marker = some (.columns column length)) :
    ∃ (width : Nat) (upper lower : List ShownLine),
      shownLines source.toList location = upper ++ line :: lower ∧
      (∀ other ∈ shownLines source.toList location, (digits other.number).length ≤ width) ∧
      (render source location).decorated.toList.splitOn '\n' =
        (upper.flatMap (ShownLine.rows .terminal width)).map indent ++
          indent (line.lead width ++ body line.text) ::
            indent (caretRow .terminal width line.text column length) ::
              (lower.flatMap (ShownLine.rows .terminal width)).map indent ∧
      ShowsLine (indent (line.lead width ++ body line.text)) (indent (line.lead width)) '>' width
        line.number line.text := by
  obtain ⟨width, upper, lower, lines, fits, split⟩ := exists_splitOn_decorated shown
  have flagged : line.mark = '>' := line.mark_eq_iff.mpr (by rw [marked, Option.isSome_some])
  have carets : line.caretRow? width = some (caretRow .terminal width line.text column length) :=
    ShownLine.caretRow?_eq_some_iff.mpr ⟨column, length, marked, rfl⟩
  rw [line.rows_eq, carets] at split
  exact ⟨width, upper, lower, lines, fits, split, flagged ▸ ShownLine.showsLine (fits line shown)⟩

end DiagnosticReport.CodeFrame
