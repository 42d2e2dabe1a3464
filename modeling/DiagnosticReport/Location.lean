import DiagnosticReport.Json.Field
import DiagnosticReport.Text.Line

/-!
# Positions and locations

A `Location` names a span of a source text as editors do: lines and columns
count from one, and the column of its end is the first one behind the span.
Engines count both from zero (`EnginePosition`); the step from one to the other
adds one everywhere and stays at the greatest 64-bit number.

Nothing is checked here.  A location may be inverted, negative or far outside
its text.
-/

set_option autoImplicit false

namespace DiagnosticReport

/-- A position that counts lines and columns from one. -/
structure Position where
  line : Int64
  column : Int64
  deriving DecidableEq, Repr

/-- A span from one position up to another. -/
structure Location where
  start : Position
  /-- The position behind the span. -/
  stop : Position
  deriving DecidableEq, Repr

/-- A position that counts lines and characters from zero. -/
structure EnginePosition where
  line : Int64
  /-- The character within the line. -/
  character : Int64
  deriving DecidableEq, Repr

/-- A span between two positions of an engine. -/
structure EngineRange where
  start : EnginePosition
  /-- The position behind the span. -/
  stop : EnginePosition
  deriving DecidableEq, Repr

/-- The next number, or the greatest one. -/
def saturatingNext (number : Int64) : Int64 := Int64.ofIntClamp (number.toInt + 1)

namespace EnginePosition

/-- The same position counted from one. -/
def toPosition (position : EnginePosition) : Position :=
  ⟨saturatingNext position.line, saturatingNext position.character⟩

/-- The position of a point of a text. -/
def ofPoint (point : Text.Point) : EnginePosition :=
  ⟨Int64.ofIntClamp point.line, Int64.ofIntClamp point.column⟩

/-- The position of an offset into a text. -/
def ofOffset (text : List Char) (offset : Nat) : EnginePosition :=
  ofPoint (Text.pointAt text offset)

/-- The position that a JSON value holds. -/
def ofJson? (value : Json) : Option EnginePosition := do
  let members ← value.members? ["line", "character"]
  let line ← Json.required Json.int64? "line" members
  let character ← Json.required Json.int64? "character" members
  return ⟨line, character⟩

def toJson (position : EnginePosition) : Json :=
  .record [("line", .int position.line.toInt), ("character", .int position.character.toInt)]

end EnginePosition

namespace EngineRange

/-- The same span counted from one. -/
def toLocation (range : EngineRange) : Location :=
  ⟨range.start.toPosition, range.stop.toPosition⟩

/-- The span that a JSON value holds. -/
def ofJson? (value : Json) : Option EngineRange := do
  let members ← value.members? ["start", "end"]
  let start ← Json.required EnginePosition.ofJson? "start" members
  let stop ← Json.required EnginePosition.ofJson? "end" members
  return ⟨start, stop⟩

def toJson (range : EngineRange) : Json :=
  .record [("start", range.start.toJson), ("end", range.stop.toJson)]

end EngineRange

namespace Position

/-- The position that a JSON value holds. -/
def ofJson? (value : Json) : Option Position := do
  let members ← value.members? ["line", "column"]
  let line ← Json.required Json.int64? "line" members
  let column ← Json.required Json.int64? "column" members
  return ⟨line, column⟩

def toJson (position : Position) : Json :=
  .record [("line", .int position.line.toInt), ("column", .int position.column.toInt)]

end Position

namespace Location

/-- The location that a JSON value holds. -/
def ofJson? (value : Json) : Option Location := do
  let members ← value.members? ["start", "end"]
  let start ← Json.required Position.ofJson? "start" members
  let stop ← Json.required Position.ofJson? "end" members
  return ⟨start, stop⟩

def toJson (location : Location) : Json :=
  .record [("start", location.start.toJson), ("end", location.stop.toJson)]

end Location

end DiagnosticReport
