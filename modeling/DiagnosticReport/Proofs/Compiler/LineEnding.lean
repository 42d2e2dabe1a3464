import DiagnosticReport.Compiler
import DiagnosticReport.Proofs.Text.LineEnding

/-!
# Diagnostics do not depend on the line ending

The same file can be kept with any of the five separators between its lines. The
offsets of a span then differ, and so does the text, but the record of a
diagnostic does not (`normalize_inLines`): the places of the span are points of
the lines, and a frame is drawn from the lines alone (`render_congr`).

An offset has 64 bits, so the offset behind the span has to be below `2 ^ 64` in
both texts.
-/

set_option autoImplicit false

namespace DiagnosticReport

open DiagnosticReport.Text

/-- A frame shows the lines of its source and nothing else of it. -/
theorem CodeFrame.render_congr {first second : String}
    (sameLines : splitLines first.toList = splitLines second.toList) (location : Location) :
    CodeFrame.render first location = CodeFrame.render second location := by
  rw [CodeFrame.render, CodeFrame.render, Frame.draw, Frame.draw, Frame.shownLines,
    Frame.shownLines, sameLines]

namespace CompilerDiagnostic

/-- This diagnostic about the span between two points of a file that has these
lines with this separator between them. -/
def inLines (diagnostic : CompilerDiagnostic) (name : String) (ending : List Char)
    (lines : List (List Char)) (first second : Point) : CompilerDiagnostic :=
  { diagnostic with
    file := some ⟨name, String.ofList (ending.intercalate lines)⟩
    start := some (UInt64.ofNat (offsetWith ending lines first))
    length := some
      (UInt64.ofNat (offsetWith ending lines second - offsetWith ending lines first)) }

section

variable {ending other : List Char} {lines : List (List Char)} {first second : Point}

/-- The location of a span between two points is made of these points. -/
theorem spanLocation_intercalate (known : ending ∈ lineEndings) (unbroken : Unbroken lines)
    (firstInside : Inside lines first) (secondInside : Inside lines second)
    (order : first.NotBehind second) (fits : offsetWith ending lines second < UInt64.size) :
    spanLocation (String.ofList (ending.intercalate lines))
        (UInt64.ofNat (offsetWith ending lines first))
        (UInt64.ofNat (offsetWith ending lines second - offsetWith ending lines first)) =
      EngineRange.toLocation ⟨.ofPoint first, .ofPoint second⟩ := by
  have ordered : offsetWith ending lines first ≤ offsetWith ending lines second :=
    offsetWith_le_of_notBehind firstInside order
  have start := UInt64.toNat_ofNat_of_lt' (Nat.lt_of_le_of_lt ordered fits)
  have length : (UInt64.ofNat
      (offsetWith ending lines second - offsetWith ending lines first)).toNat =
        offsetWith ending lines second - offsetWith ending lines first :=
    UInt64.toNat_ofNat_of_lt' (Nat.lt_of_le_of_lt (Nat.sub_le _ _) fits)
  have stop : spanEnd (UInt64.ofNat (offsetWith ending lines first))
      (UInt64.ofNat (offsetWith ending lines second - offsetWith ending lines first)) =
        offsetWith ending lines second := by
    rw [spanEnd, start, length, Nat.add_sub_cancel' ordered]
    exact Nat.min_eq_left (Nat.le_sub_one_of_lt fits)
  rw [spanLocation, stop, start, String.toList_ofList, EnginePosition.ofOffset,
    EnginePosition.ofOffset, pointAt_offsetWith known unbroken firstInside,
    pointAt_offsetWith known unbroken secondInside]

/-- **The record of a diagnostic does not depend on the line ending of its
file.** Its location is made of the two points themselves. -/
theorem normalize_inLines (diagnostic : CompilerDiagnostic) (name : String)
    (unbroken : Unbroken lines) (known : ending ∈ lineEndings) (otherKnown : other ∈ lineEndings)
    (firstInside : Inside lines first) (secondInside : Inside lines second)
    (order : first.NotBehind second) (fits : offsetWith ending lines second < UInt64.size)
    (otherFits : offsetWith other lines second < UInt64.size) :
    (diagnostic.inLines name ending lines first second).normalize =
        (diagnostic.inLines name other lines first second).normalize ∧
      (diagnostic.inLines name ending lines first second).normalize.location =
        some (EngineRange.toLocation ⟨.ofPoint first, .ofPoint second⟩) := by
  have location := spanLocation_intercalate known unbroken firstInside secondInside order fits
  have otherLocation :=
    spanLocation_intercalate otherKnown unbroken firstInside secondInside order otherFits
  have sameLines : splitLines (String.ofList (ending.intercalate lines)).toList =
      splitLines (String.ofList (other.intercalate lines)).toList := by
    rw [String.toList_ofList, String.toList_ofList,
      splitLines_intercalate known firstInside.nonempty unbroken,
      splitLines_intercalate otherKnown firstInside.nonempty unbroken]
  constructor
  · simp only [normalize, place?, inLines, location, otherLocation, Option.map_some,
      CodeFrame.render_congr sameLines]
  · simp only [normalize, place?, inLines, location, Option.map_some]

/-- Three lines, the second one empty. -/
def emptyBetween : List (List Char) := ["ab".toList, [], "\tc".toList]

/-- A span over all three lines, from offset 1 to offset 7 behind pairs, and to
offset 5 behind carriage returns. -/
theorem normalize_emptyBetween :
    (CompilerDiagnostic.inLines { message := .plain "no", category := 1 } "a.ts" ['\r', '\n']
        emptyBetween ⟨0, 1⟩ ⟨2, 1⟩).normalize =
      (CompilerDiagnostic.inLines { message := .plain "no", category := 1 } "a.ts" ['\r']
        emptyBetween ⟨0, 1⟩ ⟨2, 1⟩).normalize ∧
      (CompilerDiagnostic.inLines { message := .plain "no", category := 1 } "a.ts" ['\r', '\n']
        emptyBetween ⟨0, 1⟩ ⟨2, 1⟩).normalize.location = some ⟨⟨1, 2⟩, ⟨3, 2⟩⟩ :=
  normalize_inLines { message := .plain "no", category := 1 } "a.ts"
    (by simp [Unbroken, emptyBetween, isLineBreak]) (by decide) (by decide)
    ⟨_, rfl, by decide⟩ ⟨_, rfl, by decide⟩ (.inl (by decide)) (by decide) (by decide)

end

end CompilerDiagnostic

end DiagnosticReport
