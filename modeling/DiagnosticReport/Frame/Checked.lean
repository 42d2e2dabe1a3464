import DiagnosticReport.Frame

/-!
# Frames in 64-bit numbers

The lines and columns of a location are 64-bit numbers with a sign, and places
in a text are 64-bit numbers without one.  Here the frame of a location is
computed in these numbers, step by step.  Some sums and differences are clamped:
they stay at the greatest or the least number.  All others have to be exact.  A
step that would leave its numbers or its list is a `Fault`, and so is a
conversion that would change a number.

The markers of the flagged lines are made first, those in the window only, and
each shown line then looks up its own.  With unbounded numbers the same frame is
`CodeFrame.render`, where each line computes its marker from the location.
-/

set_option autoImplicit false

namespace DiagnosticReport.Frame.Checked

/-- Why a step cannot be taken. -/
inductive Fault where
  /-- A sum or a difference that is no 64-bit number. -/
  | overflow
  /-- A number that a conversion would change. -/
  | conversion
  /-- A slice that is empty or does not lie in its list. -/
  | slice
  deriving DecidableEq, Repr

/-! ## Numbers and places -/

/-- A number that has to be a 64-bit number. -/
def exact (number : Int) : Except Fault Int64 :=
  if Int64.minValue.toInt ≤ number ∧ number ≤ Int64.maxValue.toInt then
    .ok (.ofIntClamp number)
  else .error .overflow

def exactSum (left right : Int64) : Except Fault Int64 := exact (left.toInt + right.toInt)

def exactDifference (left right : Int64) : Except Fault Int64 := exact (left.toInt - right.toInt)

def clampedSum (left right : Int64) : Int64 := .ofIntClamp (left.toInt + right.toInt)

def clampedDifference (left right : Int64) : Int64 := .ofIntClamp (left.toInt - right.toInt)

/-- A number as a place. -/
def toPlace (number : Int64) : Except Fault Nat :=
  if 0 ≤ number.toInt then .ok number.toInt.toNat else .error .conversion

/-- A place or a length as a number. -/
def ofPlace (place : Nat) : Except Fault Int64 :=
  if place ≤ Int64.maxValue.toInt then .ok (.ofIntClamp place) else .error .conversion

/-- The sum of two places. -/
def placeSum (left right : Nat) : Except Fault Nat :=
  if left + right < UInt64.size then .ok (left + right) else .error .overflow

/-- The items from one place up to another. -/
def slice {α : Type} (items : List α) (start stop : Nat) : Except Fault (List α) :=
  if start < stop ∧ stop ≤ items.length then .ok ((items.take stop).drop start)
  else .error .slice

/-- The numbers from one up to another, both included. -/
def numbersFromTo (first last : Int64) : List Int64 :=
  (List.range (last.toInt + 1 - first.toInt).toNat).map fun (offset : Nat) =>
    .ofIntClamp (first.toInt + offset)

/-! ## The window -/

/-- How a flagged line is marked. -/
inductive Marker where
  /-- The whole line, without carets. -/
  | line
  /-- Carets from a column on, over so many characters. -/
  | columns (column length : Int64)
  deriving DecidableEq, Repr

/-- The shown part of a text. -/
structure Window where
  /-- How many lines come before it. -/
  start : Nat
  /-- How many lines there are up to its end. -/
  stop : Nat
  /-- The markers of its flagged lines, by their numbers. -/
  markers : List (Int64 × Marker)
  deriving DecidableEq, Repr

/-- The length of the line with this number; zero if there is none. -/
def lineLength (lines : List (List Char)) (number : Int64) : Except Fault Int64 := do
  let place ← exactDifference number 1
  match if 0 ≤ place.toInt then lines[place.toInt.toNat]? else none with
  | some line => ofPlace line.length
  | none => return 0

/-- The marker of a line of a span over several lines. -/
def spanMarker (location : Location) (lines : List (List Char)) (number : Int64) :
    Except Fault Marker := do
  if location.start.column = 0 then return .line
  else if number = location.start.line then
    let length ← lineLength lines number
    return .columns location.start.column
      (clampedSum (clampedDifference length location.start.column) 1)
  else if number = location.stop.line then return .columns 0 location.stop.column
  else return .columns 0 (← lineLength lines number)

/-- The marker of the line of a span within one line. -/
def lineMarker (location : Location) : Marker :=
  if location.start.column = location.stop.column then
    if location.start.column ≠ 0 then .columns location.start.column 0 else .line
  else
    .columns location.start.column
      (clampedDifference location.stop.column location.start.column)

/-- The markers of the flagged lines behind `start` and up to `stop`. -/
def markers (location : Location) (lines : List (List Char)) (start stop : Int64) :
    Except Fault (List (Int64 × Marker)) := do
  if clampedDifference location.stop.line location.start.line ≠ 0 then
    let first := max location.start.line (← exactSum start 1)
    let last := min location.stop.line stop
    (numbersFromTo first last).mapM fun number => do
      return (number, ← spanMarker location lines number)
  else return [(location.start.line, lineMarker location)]

/-- The window of a location in a text with these lines. -/
def window (location : Location) (lines : List (List Char)) : Except Fault Window := do
  let total ← ofPlace lines.length
  let above ← exactSum (.ofIntClamp linesAbove) 1
  let start := max (clampedDifference location.start.line above) 0
  let stop := max (min total (clampedSum location.stop.line (.ofIntClamp linesBelow))) 0
  let markers ← markers location lines start stop
  return ⟨← toPlace start, ← toPlace stop, markers⟩

/-! ## The rows -/

/-- How many carets a line gets. -/
def caretCount (text : List Char) (column length : Int64) : Except Fault Nat := do
  let available ← exactSum (clampedDifference (← ofPlace text.length) (max column 1)) 1
  toPlace (max (min length available) 1)

/-- The row of carets below a flagged line. -/
def caretRow (width : Nat) (text : List Char) (column length : Int64) :
    Except Fault (List Char) := do
  let taken ← toPlace (max (clampedDifference column 1) 0)
  let filler := (text.take taken).map fun character => if character == '\t' then '\t' else ' '
  let carets ← caretCount text column length
  let ink := Ink.terminal
  return ' ' :: (ink.gutter ++ gutter width [] ++ ink.gutterEnd ++ ' ' :: (filler ++
    ink.mark ++ List.replicate carets '^' ++ ink.markEnd))

/-- The rows of the line at a place of the window. -/
def rowsAt (window : Window) (width index : Nat) (text : List Char) :
    Except Fault (List (List Char)) := do
  let number ← placeSum (← placeSum window.start 1) index
  let line : ShownLine := ⟨number, text, none⟩
  match window.markers.lookup (← ofPlace number) with
  | none => return [quietRow .terminal width line]
  | some .line => return [flaggedRow .terminal width line]
  | some (.columns column length) =>
      return [flaggedRow .terminal width line, ← caretRow width text column length]

/-- The rows of these lines, the first of which is at this place of the
window. -/
def rowsFrom (window : Window) (width : Nat) : Nat → List (List Char) →
    Except Fault (List (List Char))
  | _, [] => return []
  | index, text :: rest =>
      return (← rowsAt window width index text) ++ (← rowsFrom window width (index + 1) rest)

/-- The rows of the frame of a location. -/
def rows (source : List Char) (location : Location) : Except Fault (List (List Char)) := do
  let lines := Text.splitLines source
  let window ← window location lines
  if window.stop ≤ window.start then return []
  else
    let shown ← slice lines window.start window.stop
    rowsFrom window (digits window.stop).length 0 shown

/-- The frame of a location in a source text. -/
def render (source : String) (location : Location) : Except Fault CodeFrame := do
  let decorated := layout (← rows source.toList location)
  return ⟨String.ofList decorated, String.ofList (Text.stripEscapes decorated)⟩

end DiagnosticReport.Frame.Checked
