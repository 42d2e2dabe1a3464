import DiagnosticReport.Compiler
import DiagnosticReport.Proofs.Frame.Checked
import DiagnosticReport.Proofs.Frame.Underline
import DiagnosticReport.Proofs.Text.OffsetOrder

/-!
# Every span has its place

A diagnostic of a type checker can give any two 64-bit numbers as the offset and
the length of its span. The offset can lie inside a pair or behind the text, and the
sum of both can be too great for a number. Still the location is well formed
(`Location.WellFormed`): it names lines of the text, and its start is not behind its
end. So all its lines are shown, flagged and underlined (`normalize_wellPlaced`).

A text has less than `2 ^ 63` characters, since memory does not hold more bytes.
Even then the last position of a text can be one too great for its number, and the
location is in order all the same.
-/

set_option autoImplicit false

namespace DiagnosticReport

open DiagnosticReport.Text
open DiagnosticReport.Frame

/-- A location names lines of a text with so many lines, and its start is not
behind its end. -/
structure Location.WellFormed (location : Location) (lines : Nat) : Prop where
  one_le_startLine : 1 ≤ location.start.line.toInt
  startLine_le : location.start.line.toInt ≤ location.stop.line.toInt
  stopLine_le : location.stop.line.toInt ≤ lines
  one_le_startColumn : 1 ≤ location.start.column.toInt
  one_le_stopColumn : 1 ≤ location.stop.column.toInt
  /-- On one line the columns are in order too. -/
  startColumn_le : location.start.line = location.stop.line →
    location.start.column.toInt ≤ location.stop.column.toInt

/-- A number counted from one is the next one, or the greatest there is. -/
theorem toInt_saturatingNext_ofIntClamp (number : Nat) :
    (saturatingNext (Int64.ofIntClamp number)).toInt =
      min ((number : Int) + 1) Int64.maxValue.toInt := by
  rw [saturatingNext, Checked.toInt_ofIntClamp_eq, Checked.toInt_ofIntClamp_eq,
    Int64.toInt_maxValue]
  omega

/-- Two places in their order make a well-formed location. The greatest text has one
place whose line does not fit, its end, and nothing else is on that line. -/
theorem Location.wellFormed_of_places {first second : Point} {total lines : Nat}
    (order : first.NotBehind second)
    (strict : first ≠ second → first.line + first.column < total)
    (bound : second.line + second.column ≤ total) (exists_line : second.line < lines)
    (fits : (total : Int) ≤ Int64.maxValue.toInt) :
    (EngineRange.toLocation ⟨.ofPoint first, .ofPoint second⟩).WellFormed lines := by
  have positive : 1 ≤ Int64.maxValue.toInt := by decide
  have startLine := toInt_saturatingNext_ofIntClamp first.line
  have startColumn := toInt_saturatingNext_ofIntClamp first.column
  have stopLine := toInt_saturatingNext_ofIntClamp second.line
  have stopColumn := toInt_saturatingNext_ofIntClamp second.column
  generalize Int64.maxValue.toInt = greatest at *
  constructor
  case one_le_startLine =>
    change 1 ≤ (saturatingNext (Int64.ofIntClamp first.line)).toInt
    omega
  case startLine_le =>
    change (saturatingNext (Int64.ofIntClamp first.line)).toInt ≤
      (saturatingNext (Int64.ofIntClamp second.line)).toInt
    rcases order with before | ⟨same, -⟩
    · omega
    · omega
  case stopLine_le =>
    change (saturatingNext (Int64.ofIntClamp second.line)).toInt ≤ lines
    omega
  case one_le_startColumn =>
    change 1 ≤ (saturatingNext (Int64.ofIntClamp first.column)).toInt
    omega
  case one_le_stopColumn =>
    change 1 ≤ (saturatingNext (Int64.ofIntClamp second.column)).toInt
    omega
  case startColumn_le =>
    intro sameLine
    change saturatingNext (Int64.ofIntClamp first.line) =
      saturatingNext (Int64.ofIntClamp second.line) at sameLine
    change (saturatingNext (Int64.ofIntClamp first.column)).toInt ≤
      (saturatingNext (Int64.ofIntClamp second.column)).toInt
    rw [sameLine] at startLine
    rcases order with before | ⟨-, columns⟩
    · have earlier := strict fun same => Nat.ne_of_lt before (congrArg Point.line same)
      omega
    · omega

namespace CompilerDiagnostic

/-! ## From diagnostic to place -/

section Place

variable {diagnostic : CompilerDiagnostic}

/-- A diagnostic with a file and a span has the place of the span. -/
theorem place?_of_span {file : SourceFile} {start length : UInt64}
    (inFile : diagnostic.file = some file) (starts : diagnostic.start = some start)
    (spans : diagnostic.length = some length) :
    diagnostic.place? = some (file.text, spanLocation file.text start length) := by
  rw [place?, inFile, starts, spans]

/-- A place is the location of the record, and its frame is that of the record. -/
theorem normalize_of_place {text : String} {location : Location}
    (place : diagnostic.place? = some (text, location)) :
    diagnostic.normalize.location = some location ∧
      diagnostic.normalize.codeFrame = some (CodeFrame.render text location).decorated := by
  rw [normalize, place]
  exact ⟨rfl, rfl⟩

end Place

/-- The location of every span is well formed. -/
theorem spanLocation_wellFormed (text : String) (start length : UInt64)
    (fits : text.toList.length < 2 ^ 63) :
    (spanLocation text start length).WellFormed (splitLines text.toList).length := by
  have order : start.toNat ≤ spanEnd start length := by
    have small := start.toNat_lt
    rw [spanEnd, UInt64.size]
    omega
  have small : (text.toList.length : Int) ≤ Int64.maxValue.toInt := by
    rw [Int64.toInt_maxValue]
    omega
  refine Location.wellFormed_of_places (pointAt_notBehind order) ?_
    ((pointAt_add_le _ _).trans (Nat.min_le_right _ _)) (line_pointAt_lt _ _) small
  intro different
  have inText : start.toNat < text.toList.length := by
    refine Nat.lt_of_not_le fun behind => different ?_
    rw [pointAt_of_length_le behind, pointAt_of_length_le (behind.trans order)]
  have bound := pointAt_add_le text.toList start.toNat
  omega

/-- **Every diagnostic with a span is placed and shown.** Whatever numbers the span
has, the location is well formed, and all its lines are underlined in the frame. -/
theorem normalize_wellPlaced {diagnostic : CompilerDiagnostic} {file : SourceFile}
    {start length : UInt64} (inFile : diagnostic.file = some file)
    (starts : diagnostic.start = some start) (spans : diagnostic.length = some length)
    (fits : file.text.toList.length < 2 ^ 63) :
    ∃ location frame, diagnostic.normalize.location = some location ∧
      diagnostic.normalize.codeFrame = some frame ∧
      location.WellFormed (splitLines file.text.toList).length ∧ frame ≠ "" ∧
      ∀ number : Nat, location.start.line.toInt ≤ number → number ≤ location.stop.line.toInt →
        ∃ text spacing count, (splitLines file.text.toList)[number - 1]? = some text ∧
          Underlined frame.toList number text spacing count := by
  obtain ⟨located, framed⟩ := normalize_of_place (place?_of_span inFile starts spans)
  have wellFormed := spanLocation_wellFormed file.text start length fits
  generalize spanLocation file.text start length = location at *
  have columns : ¬ Columnless location := by
    have positive := wellFormed.one_le_startColumn
    rintro ⟨zero, -⟩
    omega
  have underlined : ∀ number : Nat, location.start.line.toInt ≤ number →
      number ≤ location.stop.line.toInt →
      ∃ text spacing count, (splitLines file.text.toList)[number - 1]? = some text ∧
        Underlined (CodeFrame.render file.text location).decorated.toList number text spacing
          count := by
    intro number above below
    have first := wellFormed.one_le_startLine
    have last := wellFormed.stopLine_le
    exact exists_underlined columns ⟨above, below⟩ (by omega) (by omega)
  refine ⟨location, _, located, framed, wellFormed, ?_, underlined⟩
  intro empty
  have firstLine : (location.start.line.toInt.toNat : Int) = location.start.line.toInt :=
    Int.toNat_of_nonneg (Int.le_of_lt wellFormed.one_le_startLine)
  have within := wellFormed.startLine_le
  obtain ⟨text, spacing, count, -, first⟩ :=
    underlined location.start.line.toInt.toNat (by omega) (by omega)
  exact first.ne_nil (by rw [empty, String.toList_empty])

/-- A span that starts inside a pair and whose end is too great for a number. -/
def insidePair : CompilerDiagnostic where
  file := some ⟨"a.ts", "a\r\n"⟩
  message := .plain "no"
  category := 1
  start := some 2
  length := some 18446744073709551615

theorem insidePair_wellPlaced :
    "a\r\n".toList.length < 2 ^ 63 ∧
    ∃ location frame, insidePair.normalize.location = some location ∧
      insidePair.normalize.codeFrame = some frame ∧
      location.WellFormed (splitLines "a\r\n".toList).length ∧ frame ≠ "" ∧
      ∀ number : Nat, location.start.line.toInt ≤ number → number ≤ location.stop.line.toInt →
        ∃ text spacing count, (splitLines "a\r\n".toList)[number - 1]? = some text ∧
          Underlined frame.toList number text spacing count :=
  ⟨by decide, @normalize_wellPlaced insidePair ⟨"a.ts", "a\r\n"⟩ 2 18446744073709551615 rfl rfl rfl
    (by decide)⟩

end CompilerDiagnostic

end DiagnosticReport
