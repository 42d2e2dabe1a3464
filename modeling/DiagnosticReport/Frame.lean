import DiagnosticReport.Location
import DiagnosticReport.Text.Escape

/-!
# Code frames

A code frame shows the source around a location: two lines above its first line,
three below its last, each behind a gutter with its number.  A flagged line has
the mark `>` in front of its gutter, and below it a row of carets under the
flagged columns.

```text
    1 | import { ref } from 'vue'
  > 2 | const count: string = 1
      |       ^^^^^
    3 |
```

The frame is computed as a list of shown lines (`shownLines`) and only then laid
out, with the escape sequences of an `Ink` around the gutters, the marks and the
carets.  The plain frame is the decorated one without any escape sequence, those
of the source included.

No location is refused.  Lines outside the text are not shown, a span that ends
above its start flags nothing, and carets stay within the line or one column
behind it.
-/

set_option autoImplicit false

namespace DiagnosticReport.Frame

/-! ## What is shown -/

/-- How many lines are shown above the first flagged one. -/
def linesAbove : Int := 2

/-- How many lines are shown below the last flagged one. -/
def linesBelow : Int := 3

/-- How a flagged line is marked. -/
inductive Marker where
  /-- The whole line, without carets. -/
  | line
  /-- Carets from a column on, over so many characters. -/
  | columns (column length : Int)
  deriving DecidableEq, Repr

/-- How many lines come before the first shown one. -/
def linesBefore (location : Location) : Nat :=
  (location.start.line.toInt - (linesAbove + 1)).toNat

/-- The number of the last shown line, in a text of `total` lines. -/
def lastLine (location : Location) (total : Nat) : Nat :=
  (min (total : Int) (location.stop.line.toInt + linesBelow)).toNat

/-- The marker of the line with this number and length, if it is flagged. -/
def marker? (location : Location) (number : Int) (length : Nat) : Option Marker :=
  let startLine := location.start.line.toInt
  let startColumn := location.start.column.toInt
  let stopLine := location.stop.line.toInt
  let stopColumn := location.stop.column.toInt
  if startLine ≠ stopLine then
    if startLine ≤ number ∧ number ≤ stopLine then
      if startColumn = 0 then some .line
      else if number = startLine then some (.columns startColumn (length - startColumn + 1))
      else if number = stopLine then some (.columns 0 stopColumn)
      else some (.columns 0 length)
    else none
  else if number = startLine then
    if startColumn = stopColumn then
      if startColumn = 0 then some .line else some (.columns startColumn 0)
    else some (.columns startColumn (stopColumn - startColumn))
  else none

/-- A line of the frame. -/
structure ShownLine where
  /-- Its number in the text, counted from one. -/
  number : Nat
  text : List Char
  /-- Its marker, if it is flagged. -/
  marker : Option Marker
  deriving DecidableEq, Repr

/-- The lines from `number + 1` on, with their markers. -/
def numberLines (location : Location) : Nat → List (List Char) → List ShownLine
  | _, [] => []
  | number, text :: rest =>
      ⟨number + 1, text, marker? location (number + 1 : Nat) text.length⟩ ::
        numberLines location (number + 1) rest

/-- The lines that the frame of a location shows. -/
def shownLines (source : List Char) (location : Location) : List ShownLine :=
  let lines := Text.splitLines source
  let before := linesBefore location
  numberLines location before ((lines.take (lastLine location lines.length)).drop before)

/-! ## The layout of a row -/

/-- The escape sequences around the parts of a row. -/
structure Ink where
  /-- Before a gutter. -/
  gutter : List Char
  /-- Behind a gutter. -/
  gutterEnd : List Char
  /-- Before a mark or carets. -/
  mark : List Char
  /-- Behind a mark or carets. -/
  markEnd : List Char

/-- Grey gutters, and marks in bold red. -/
def Ink.terminal : Ink where
  gutter := "\x1b[90m".toList
  gutterEnd := "\x1b[39m".toList
  mark := "\x1b[31m\x1b[1m".toList
  markEnd := "\x1b[22m\x1b[39m".toList

/-- No escape sequences at all. -/
def Ink.none : Ink := ⟨[], [], [], []⟩

/-- The decimal digits of a number. -/
def digits (number : Nat) : List Char := (toString number).toList

/-- A gutter around these characters, which are moved to the right end of
`width` columns. -/
def gutter (width : Nat) (label : List Char) : List Char :=
  ' ' :: (List.replicate (width - label.length) ' ' ++ label ++ [' ', '|'])

/-- What stands behind a gutter: the line behind a space, or nothing for an
empty line. -/
def body (text : List Char) : List Char :=
  if text.isEmpty then [] else ' ' :: text

/-- The characters in front of the carets: tabs where the line has tabs. -/
def filler (text : List Char) (column : Int) : List Char :=
  (text.take (column - 1).toNat).map fun character => if character == '\t' then '\t' else ' '

/-- How many carets a line of this length gets. -/
def caretCount (lineLength : Nat) (column length : Int) : Nat :=
  (max 1 (min length (lineLength - max column 1 + 1))).toNat

/-- The row of carets below a flagged line. -/
def caretRow (ink : Ink) (width : Nat) (text : List Char) (column length : Int) : List Char :=
  ' ' :: (ink.gutter ++ gutter width [] ++ ink.gutterEnd ++ ' ' :: (filler text column ++
    ink.mark ++ List.replicate (caretCount text.length column length) '^' ++ ink.markEnd))

/-- The row of a line that is not flagged. -/
def quietRow (ink : Ink) (width : Nat) (line : ShownLine) : List Char :=
  ' ' :: (ink.gutter ++ gutter width (digits line.number) ++ ink.gutterEnd ++ body line.text)

/-- The row of a flagged line. -/
def flaggedRow (ink : Ink) (width : Nat) (line : ShownLine) : List Char :=
  ink.mark ++ '>' :: (ink.markEnd ++ ink.gutter ++ gutter width (digits line.number) ++
    ink.gutterEnd ++ body line.text)

/-- The rows of a shown line. -/
def ShownLine.rows (ink : Ink) (width : Nat) (line : ShownLine) : List (List Char) :=
  match line.marker with
  | .none => [quietRow ink width line]
  | some .line => [flaggedRow ink width line]
  | some (.columns column length) =>
      [flaggedRow ink width line, caretRow ink width line.text column length]

/-! ## The whole frame -/

/-- The width of the greatest line number of a frame. -/
def numberWidth (lines : List ShownLine) : Nat :=
  match lines.getLast? with
  | .none => 0
  | some line => (digits line.number).length

/-- The rows of a list of shown lines. -/
def rows (ink : Ink) (lines : List ShownLine) : List (List Char) :=
  lines.flatMap (ShownLine.rows ink (numberWidth lines))

/-- The rows, indented by two spaces and joined by line feeds. -/
def layout (rows : List (List Char)) : List Char :=
  ['\n'].intercalate (rows.map fun row => ' ' :: ' ' :: row)

/-- The frame of a location with these escape sequences. -/
def draw (ink : Ink) (source : List Char) (location : Location) : List Char :=
  layout (rows ink (shownLines source location))

end DiagnosticReport.Frame

namespace DiagnosticReport

/-- Both forms of the frame of one location. -/
structure CodeFrame where
  /-- The frame with terminal colours. -/
  decorated : String
  /-- The frame without any escape sequence. -/
  stripped : String
  deriving DecidableEq, Repr

/-- The frame of a location in a source text. -/
def CodeFrame.render (source : String) (location : Location) : CodeFrame :=
  let decorated := Frame.draw .terminal source.toList location
  ⟨String.ofList decorated, String.ofList (Text.stripEscapes decorated)⟩

end DiagnosticReport
