import DiagnosticReport.Compiler
import DiagnosticReport.Proofs.Frame.Pointing
import DiagnosticReport.Proofs.Location
import DiagnosticReport.Proofs.Text.Span

/-!
# Diagnostics of the type checkers point at their text

A diagnostic gives its span as an offset and a length. Three systems of
coordinates lie between the span and the carets of the frame: offsets into the
text, places counted from zero, and positions counted from one with an
exclusive end. `PointsAt` says that nothing is lost on the way, and
`normalize_pointsAt` that every span of at least one character and without a
line break is pointed at in this sense.

The numbers of a location have 64 bits, so the offset behind the span, counted
from one, has to be below `2 ^ 63`. No text in memory reaches this bound.
-/

set_option autoImplicit false

namespace DiagnosticReport

open DiagnosticReport.Text
open DiagnosticReport.Frame

/-- A record points at the `length` characters of a text from the offset `start` on,
which are characters of this line. -/
structure PointsAt (record : Record) (text : List Char) (start length : Nat)
    (line : List Char) : Prop where
  /-- The line is that of the place of `start`. -/
  here : (splitLines text)[(pointAt text start).line]? = some line
  /-- From the column of that place on it holds the characters of the span. -/
  inside : (pointAt text start).column + length ≤ line.length
  slice_eq : (line.drop (pointAt text start).column).take length = (text.drop start).take length
  /-- The location is this part of the line, counted from one. -/
  location : ∃ location, record.location = some location ∧
    SpansOneLine location ((pointAt text start).line + 1) (pointAt text start).column length
  /-- The frame points at this part of the line, and the plain frame has the rows of the
  frame without their escape sequences. -/
  frames : ∃ frame plain, record.codeFrame = some frame ∧ record.plainFrame = some plain ∧
    PointsInto (splitLines text) frame.toList (pointAt text start).line line
      (pointAt text start).column length ∧
    plain.toList.splitOn '\n' = (frame.toList.splitOn '\n').map stripEscapes

namespace CompilerDiagnostic

/-- The location of a span within one line. -/
theorem spanLocation_spansOneLine {text : String} {start length : UInt64}
    (inText : start.toNat + length.toNat ≤ text.toList.length)
    (fits : start.toNat + length.toNat + 1 < 2 ^ 63)
    (stop : pointAt text.toList (start.toNat + length.toNat) =
      ⟨(pointAt text.toList start.toNat).line,
        (pointAt text.toList start.toNat).column + length.toNat⟩) :
    SpansOneLine (spanLocation text start length) ((pointAt text.toList start.toNat).line + 1)
      (pointAt text.toList start.toNat).column length.toNat := by
  have notClamped : spanEnd start length = start.toNat + length.toNat := by
    rw [spanEnd, UInt64.size]
    omega
  obtain ⟨startLine, startColumn⟩ :=
    @EnginePosition.toInt_toPosition_ofOffset text.toList start.toNat (by omega)
  obtain ⟨stopLine, stopColumn⟩ :=
    @EnginePosition.toInt_toPosition_ofOffset text.toList (start.toNat + length.toNat) (by omega)
  rw [stop] at stopLine stopColumn
  rw [spanLocation, notClamped]
  refine ⟨startLine, stopLine, startColumn, stopColumn.trans ?_⟩
  simp only
  omega

/-- **A diagnostic of a type checker points at its text.** -/
theorem normalize_pointsAt {diagnostic : CompilerDiagnostic} {file : SourceFile}
    {start length : UInt64} (inFile : diagnostic.file = some file)
    (starts : diagnostic.start = some start) (spans : diagnostic.length = some length)
    (positive : 1 ≤ length.toNat)
    (inText : start.toNat + length.toNat ≤ file.text.toList.length)
    (unbroken : ∀ character ∈ (file.text.toList.drop start.toNat).take length.toNat,
      isLineBreak character = false)
    (fits : start.toNat + length.toNat + 1 < 2 ^ 63) :
    (∃ line, PointsAt diagnostic.normalize file.text.toList start.toNat length.toNat line) ∧
      diagnostic.normalizeComponent = { diagnostic.normalize with checker := .vueTsc } := by
  refine ⟨?_, rfl⟩
  have place : diagnostic.place? = some (file.text, spanLocation file.text start length) := by
    rw [place?, inFile, starts, spans]
  obtain ⟨line, here, inside, slice, stop⟩ := pointAt_span unbroken positive inText
  have oneLine := spanLocation_spansOneLine inText fits stop
  have pointed := pointsInto_of_spans oneLine positive inside here
  refine ⟨line, here, inside, slice, ⟨_, ?_, oneLine⟩, _, _, ?_, ?_, pointed,
    CodeFrame.splitOn_stripped file.text (spanLocation file.text start length)⟩
  · rw [normalize, place]
    rfl
  · rw [normalize, place]
    rfl
  · rw [normalize, place]
    rfl

/-- The span of `foo` behind a line end and a tab. -/
def behindTab : CompilerDiagnostic where
  file := some ⟨"a.ts", "a\r\n\tfoo = 1"⟩
  message := .plain "no"
  category := 1
  start := some 4
  length := some 3

/-- The carets stand behind the tab. -/
theorem behindTab_pointsAt :
    ((∃ line, PointsAt behindTab.normalize "a\r\n\tfoo = 1".toList 4 3 line) ∧
        behindTab.normalizeComponent = { behindTab.normalize with checker := .vueTsc }) ∧
      behindTab.normalize.plainFrame = some "    1 | a\n  > 2 | \tfoo = 1\n      | \t^^^" := by
  refine ⟨?_, by decide +kernel⟩
  exact @normalize_pointsAt behindTab ⟨"a.ts", "a\r\n\tfoo = 1"⟩ 4 3 rfl rfl rfl (by decide)
    (by decide) (by simp [isLineBreak]) (by decide)

end CompilerDiagnostic

end DiagnosticReport
