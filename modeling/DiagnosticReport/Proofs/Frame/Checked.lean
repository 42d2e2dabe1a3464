import DiagnosticReport.Frame.Checked
import DiagnosticReport.Proofs.Frame.Shown
import DiagnosticReport.Proofs.Location

/-!
# No step of a frame leaves its numbers

The frame computed in 64-bit numbers has no fault and is the frame of
`CodeFrame.render`, for every location in every text with fewer than `2 ^ 63`
lines and characters (`rendering_safe`).

Every exact step gets its equation under the bounds that it needs, and every
clamped one the number that it yields. Three facts carry the bounds on. The
start of the window is not negative and has a next number. The end of the window
is at most the number of lines, so that only lines of the text get a marker,
however many the location claims to span (`mem_flaggedNumbers`). And carets start
in column one or later, so that no more than the line is left behind them
(`caretCount_eq`). The rows then follow line by line (`rowsAt_eq`,
`rowsFrom_eq`).
-/

set_option autoImplicit false

namespace DiagnosticReport.Frame.Checked

open DiagnosticReport.Text

/-! ## Numbers -/

/-- The 64-bit number next to a number. -/
theorem toInt_ofIntClamp_eq (number : Int) :
    (Int64.ofIntClamp number).toInt = max (-2 ^ 63) (min number (2 ^ 63 - 1)) := by
  have least := Int64.toInt_minValue
  have greatest := Int64.toInt_maxValue
  rw [Int64.ofIntClamp]
  split
  · split
    · rw [Int64.toInt_ofIntLE]
      omega
    · omega
  · omega

theorem toInt_clampedSum (left right : Int64) :
    (clampedSum left right).toInt =
      max (-2 ^ 63) (min (left.toInt + right.toInt) (2 ^ 63 - 1)) :=
  toInt_ofIntClamp_eq _

theorem toInt_clampedDifference (left right : Int64) :
    (clampedDifference left right).toInt =
      max (-2 ^ 63) (min (left.toInt - right.toInt) (2 ^ 63 - 1)) :=
  toInt_ofIntClamp_eq _

theorem toInt_max (left right : Int64) :
    (max left right).toInt = max left.toInt right.toInt := by
  simp only [max, Int64.le_iff_toInt_le]
  split
  · omega
  · omega

theorem toInt_min (left right : Int64) :
    (min left right).toInt = min left.toInt right.toInt := by
  simp only [min, Int64.le_iff_toInt_le]
  split
  · omega
  · omega

theorem exact_eq {number : Int} (least : -2 ^ 63 ≤ number) (greatest : number < 2 ^ 63) :
    exact number = pure (.ofIntClamp number) := by
  have low := Int64.toInt_minValue
  have high := Int64.toInt_maxValue
  rw [exact, if_pos (by omega)]
  rfl

/-- A sum of two numbers that is a number needs no clamp. -/
theorem exactSum_eq {left right : Int64} (least : -2 ^ 63 ≤ left.toInt + right.toInt)
    (greatest : left.toInt + right.toInt < 2 ^ 63) :
    exactSum left right = pure (clampedSum left right) := exact_eq least greatest

/-- The greatest number has no next one. -/
example : exactSum .maxValue 1 = .error .overflow := by decide

theorem exactDifference_eq {left right : Int64} (least : -2 ^ 63 ≤ left.toInt - right.toInt)
    (greatest : left.toInt - right.toInt < 2 ^ 63) :
    exactDifference left right = pure (clampedDifference left right) := exact_eq least greatest

theorem toPlace_eq {number : Int64} (positive : 0 ≤ number.toInt) :
    toPlace number = pure number.toInt.toNat := by
  rw [toPlace, if_pos positive]
  rfl

theorem ofPlace_eq {place : Nat} (fits : place < 2 ^ 63) :
    ofPlace place = pure (.ofIntClamp place) := by
  have high := Int64.toInt_maxValue
  rw [ofPlace, if_pos (by omega)]
  rfl

theorem placeSum_eq {left right : Nat} (fits : left + right < 2 ^ 64) :
    placeSum left right = pure (left + right) := by
  rw [placeSum, if_pos (by rw [UInt64.size]; omega)]
  rfl

theorem slice_eq {α : Type} {items : List α} {start stop : Nat} (before : start < stop)
    (inside : stop ≤ items.length) :
    slice items start stop = pure ((items.take stop).drop start) := by
  rw [slice, if_pos ⟨before, inside⟩]
  rfl

/-- The numbers from one up to another are those between them. -/
theorem mem_numbersFromTo {first last number : Int64} :
    number ∈ numbersFromTo first last ↔
      first.toInt ≤ number.toInt ∧ number.toInt ≤ last.toInt := by
  have least := first.le_toInt
  have greatest := last.toInt_lt
  simp only [numbersFromTo, List.mem_map, List.mem_range]
  constructor
  · rintro ⟨offset, inside, rfl⟩
    rw [toInt_ofIntClamp_eq]
    omega
  · rintro ⟨from_first, to_last⟩
    refine ⟨(number.toInt - first.toInt).toNat, by omega, ?_⟩
    have same : first.toInt + ((number.toInt - first.toInt).toNat : Int) = number.toInt := by omega
    rw [same, Int64.ofIntClamp_toInt]

theorem length_numbersFromTo (first last : Int64) :
    (numbersFromTo first last).length = (last.toInt + 1 - first.toInt).toNat := by
  rw [numbersFromTo, List.length_map, List.length_range]

/-! ## Markers -/

/-- A marker in 64-bit numbers. -/
def Marker.clamp : Frame.Marker → Marker
  | .line => .line
  | .columns column length => .columns (.ofIntClamp column) (.ofIntClamp length)

/-- The carets of a line start at the start of the location or at the start of
the line. -/
theorem column_of_marker? {location : Location} {number : Int} {lineLength : Nat}
    {column length : Int}
    (marked : marker? location number lineLength = some (.columns column length)) :
    column = location.start.column.toInt ∨ column = 0 := by
  unfold marker? at marked
  grind

/-- The rest of a line from a column on. Clamping the difference first loses
nothing, because a length is not negative. -/
theorem rest_eq {length : Nat} (short : length < 2 ^ 63) (column : Int64) :
    clampedSum (clampedDifference (.ofIntClamp length) column) 1 =
      .ofIntClamp (length - column.toInt + 1) := by
  have one := Int64.toInt_one
  have least := column.le_toInt
  have greatest := column.toInt_lt
  rw [← Int64.toInt_inj, toInt_clampedSum, toInt_clampedDifference, toInt_ofIntClamp_of_lt short,
    toInt_ofIntClamp_eq, one]
  omega

section Lines

variable {lines : List (List Char)} {index : Nat} {text : List Char} {number : Int64}
  (here : lines[index]? = some text) (short : text.length < 2 ^ 63)
  (numbered : number.toInt = index + 1)
include here short numbered

/-- A line has a length if its number is not below one. -/
theorem lineLength_eq : lineLength lines number = pure (.ofIntClamp text.length) := by
  have greatest := number.toInt_lt
  have one := Int64.toInt_one
  have place : (clampedDifference number 1).toInt = index := by
    rw [toInt_clampedDifference]
    omega
  rw [lineLength, exactDifference_eq (by omega) (by omega), pure_bind, place,
    if_pos (Int.natCast_nonneg index), Int.toNat_natCast, here]
  exact ofPlace_eq short

/-- A line within a span over several lines has the marker of the location. -/
theorem spanMarker_eq {location : Location}
    (several : location.start.line.toInt ≠ location.stop.line.toInt)
    (behindStart : location.start.line.toInt ≤ number.toInt)
    (beforeStop : number.toInt ≤ location.stop.line.toInt) :
    ∃ marker, marker? location number.toInt text.length = some marker ∧
      spanMarker location lines number = pure (Marker.clamp marker) := by
  have zero : location.start.column = 0 ↔ location.start.column.toInt = 0 :=
    Int64.toInt_inj.symm
  have first : number = location.start.line ↔ number.toInt = location.start.line.toInt :=
    Int64.toInt_inj.symm
  have last : number = location.stop.line ↔ number.toInt = location.stop.line.toInt :=
    Int64.toInt_inj.symm
  simp only [marker?, if_pos several, if_pos (And.intro behindStart beforeStop), spanMarker, zero,
    first, last, lineLength_eq here short numbered, pure_bind]
  split
  · exact ⟨_, rfl, rfl⟩
  · split
    · refine ⟨_, rfl, ?_⟩
      rw [Marker.clamp, Int64.ofIntClamp_toInt, rest_eq short]
    · split
      · refine ⟨_, rfl, ?_⟩
        rw [Marker.clamp, Int64.ofIntClamp_toInt]
        rfl
      · exact ⟨_, rfl, rfl⟩

end Lines

/-! ## The window -/

theorem clampedDifference_eq_zero_iff {left right : Int64} :
    clampedDifference left right = 0 ↔ left.toInt = right.toInt := by
  rw [← Int64.toInt_inj, toInt_clampedDifference, Int64.toInt_zero]
  omega

/-- The marker of a span within one line belongs to that line only. -/
theorem marker?_of_one_line {location : Location}
    (one : location.start.line.toInt = location.stop.line.toInt) (number : Int)
    (lineLength : Nat) :
    (marker? location number lineLength).map Marker.clamp =
      if number = location.start.line.toInt then some (lineMarker location) else none := by
  have zero : location.start.column = 0 ↔ location.start.column.toInt = 0 :=
    Int64.toInt_inj.symm
  have same : location.start.column = location.stop.column ↔
      location.start.column.toInt = location.stop.column.toInt := Int64.toInt_inj.symm
  simp only [marker?, if_neg (not_not_intro one), lineMarker, ne_eq, zero, same]
  split
  · split
    · split
      · rfl
      · rw [Option.map_some, Marker.clamp, Int64.ofIntClamp_toInt]
        rfl
    · rw [Option.map_some, Marker.clamp, Int64.ofIntClamp_toInt]
      rfl
  · rfl

/-- Keys with a value each make a table that finds exactly these keys. -/
theorem exists_table {keys : List Int64} {step : Int64 → Except Fault Marker}
    {property : Int64 → Marker → Prop}
    (each : ∀ key ∈ keys, ∃ value, step key = pure value ∧ property key value) :
    ∃ table, (keys.mapM fun key => do return (key, ← step key)) = pure table ∧
      table.length = keys.length ∧
      ∀ key, (key ∈ keys → ∃ value, table.lookup key = some value ∧ property key value) ∧
        (key ∉ keys → table.lookup key = none) := by
  induction keys with
  | nil => exact ⟨[], rfl, rfl, fun key => ⟨by simp, fun _ => rfl⟩⟩
  | cons first keys ih =>
      obtain ⟨value, found, holds⟩ := each first List.mem_cons_self
      obtain ⟨table, run, length, finds⟩ :=
        ih fun other member => each other (List.mem_cons_of_mem _ member)
      refine ⟨(first, value) :: table, ?_, by rw [List.length_cons, length, List.length_cons], ?_⟩
      · rw [List.mapM_cons, found, run]
        rfl
      · intro key
        rw [List.lookup_cons]
        by_cases equal : key = first
        · subst equal
          simp [holds]
        · simp only [beq_eq_false_iff_ne.mpr equal, List.mem_cons, equal, false_or]
          exact finds key

/-- The flagged lines behind the first `start` of these, up to the line `stop`,
have the markers of the location in a table, and no other line there has one. -/
def Marks (location : Location) (lines : List (List Char)) (start stop : Nat)
    (table : List (Int64 × Marker)) : Prop :=
  ∀ (index : Nat) (text : List Char), lines[index]? = some text → start ≤ index → index < stop →
    table.lookup (.ofIntClamp (index + 1 : Nat)) =
      (marker? location (index + 1 : Nat) text.length).map Marker.clamp

theorem markers_of_one_line {location : Location}
    (one : location.start.line.toInt = location.stop.line.toInt)
    (lines : List (List Char)) (start stop : Int64) :
    markers location lines start stop = pure [(location.start.line, lineMarker location)] ∧
      Marks location lines start.toInt.toNat stop.toInt.toNat
        [(location.start.line, lineMarker location)] := by
  have greatest := stop.toInt_lt
  refine ⟨?_, ?_⟩
  · rw [markers, if_neg (not_not_intro (clampedDifference_eq_zero_iff.mpr one.symm))]
  · intro index text here above below
    have key : (Int64.ofIntClamp (index + 1 : Nat)).toInt = (index + 1 : Nat) :=
      toInt_ofIntClamp_of_lt (by omega)
    rw [marker?_of_one_line one, List.lookup_cons]
    by_cases start : ((index + 1 : Nat) : Int) = location.start.line.toInt
    · have found : Int64.ofIntClamp (index + 1 : Nat) = location.start.line :=
        Int64.toInt_inj.mp (key.trans start)
      rw [if_pos start, found, beq_self_eq_true]
    · have missed : Int64.ofIntClamp (index + 1 : Nat) ≠ location.start.line := fun same =>
        start (by rw [← key, same])
      rw [if_neg start, beq_eq_false_iff_ne.mpr missed, List.lookup_nil]

/-- The numbers of the lines of the window in a span over several lines. -/
def flaggedNumbers (location : Location) (start stop : Int64) : List Int64 :=
  numbersFromTo (max location.start.line (clampedSum start 1)) (min location.stop.line stop)

section SeveralLines

variable {location : Location} {lines : List (List Char)} {start stop : Int64}
  (positive : 0 ≤ start.toInt) (small : start.toInt + 1 < 2 ^ 63)
include positive small

theorem toInt_clampedSum_one : (clampedSum start 1).toInt = start.toInt + 1 := by
  have one := Int64.toInt_one
  rw [toInt_clampedSum]
  omega

theorem mem_flaggedNumbers {number : Int64} :
    number ∈ flaggedNumbers location start stop ↔
      (location.start.line.toInt ≤ number.toInt ∧ number.toInt ≤ location.stop.line.toInt) ∧
        start.toInt < number.toInt ∧ number.toInt ≤ stop.toInt := by
  rw [flaggedNumbers, mem_numbersFromTo, toInt_max, toInt_min,
    toInt_clampedSum_one positive small]
  omega

/-- There are no more of them than lines, however many lines the location claims
to span. -/
theorem length_flaggedNumbers_le (inside : stop.toInt ≤ lines.length) :
    (flaggedNumbers location start stop).length ≤ lines.length := by
  rw [flaggedNumbers, length_numbersFromTo, toInt_max, toInt_min,
    toInt_clampedSum_one positive small]
  omega

variable (several : location.start.line.toInt ≠ location.stop.line.toInt)
  (short : ∀ line ∈ lines, line.length < 2 ^ 63) (inside : stop.toInt ≤ lines.length)
include several short inside

/-- Each of them is the number of a line, which gets its marker. -/
theorem exists_spanMarker {number : Int64} (member : number ∈ flaggedNumbers location start stop) :
    ∃ marker, spanMarker location lines number = pure marker ∧
      ∀ text, lines[number.toInt.toNat - 1]? = some text →
        (marker? location number.toInt text.length).map Marker.clamp = some marker := by
  obtain ⟨⟨behindStart, beforeStop⟩, above, below⟩ := (mem_flaggedNumbers positive small).mp member
  have exists_line : number.toInt.toNat - 1 < lines.length := by omega
  have here := List.getElem?_eq_getElem exists_line
  obtain ⟨marker, same, run⟩ := spanMarker_eq here (short _ (List.getElem_mem exists_line))
    (by omega) several behindStart beforeStop
  refine ⟨_, run, fun text there => ?_⟩
  rw [here, Option.some.injEq] at there
  rw [← there, same, Option.map_some]

theorem exists_markers_of_several_lines :
    ∃ table, markers location lines start stop = pure table ∧ table.length ≤ lines.length ∧
      Marks location lines start.toInt.toNat stop.toInt.toNat table := by
  have one := Int64.toInt_one
  have greatest := stop.toInt_lt
  obtain ⟨table, run, length, finds⟩ := exists_table fun number member =>
    exists_spanMarker positive small several short inside member
  refine ⟨table, ?_, length ▸ length_flaggedNumbers_le positive small inside, ?_⟩
  · rw [markers, if_pos fun zero => several (clampedDifference_eq_zero_iff.mp zero).symm,
      exactSum_eq (by omega) (by omega), pure_bind]
    exact run
  · intro index text here above below
    have behind : start.toInt < (index + 1 : Nat) := by omega
    have before : ((index + 1 : Nat) : Int) ≤ stop.toInt := by omega
    have key : (Int64.ofIntClamp (index + 1 : Nat)).toInt = (index + 1 : Nat) :=
      toInt_ofIntClamp_of_lt (by omega)
    have flagged : Int64.ofIntClamp (index + 1 : Nat) ∈ flaggedNumbers location start stop ↔
        location.start.line.toInt ≤ (index + 1 : Nat) ∧
          ((index + 1 : Nat) : Int) ≤ location.stop.line.toInt := by
      rw [mem_flaggedNumbers positive small, key]
      exact and_iff_left ⟨behind, before⟩
    obtain ⟨found, missed⟩ := finds (.ofIntClamp (index + 1 : Nat))
    by_cases within : location.start.line.toInt ≤ (index + 1 : Nat) ∧
        ((index + 1 : Nat) : Int) ≤ location.stop.line.toInt
    · obtain ⟨marker, known, same⟩ := found (flagged.mpr within)
      rw [key, Int.toNat_natCast, Nat.add_sub_cancel] at same
      rw [known, same text here]
    · have quiet : marker? location (index + 1 : Nat) text.length = none := by
        simp only [marker?, if_pos several, if_neg within]
      rw [missed fun member => within (flagged.mp member), quiet, Option.map_none]

end SeveralLines

/-- **The markers of a window are made without a fault.** There are no more of
them than lines, except that a location within one line always has one. -/
theorem exists_markers (location : Location) {lines : List (List Char)}
    (short : ∀ line ∈ lines, line.length < 2 ^ 63) {start stop : Int64}
    (positive : 0 ≤ start.toInt) (small : start.toInt + 1 < 2 ^ 63)
    (inside : stop.toInt ≤ lines.length) :
    ∃ table, markers location lines start stop = pure table ∧
      table.length ≤ max 1 lines.length ∧
      Marks location lines start.toInt.toNat stop.toInt.toNat table := by
  by_cases one : location.start.line.toInt = location.stop.line.toInt
  · obtain ⟨run, marks⟩ := markers_of_one_line one lines start stop
    exact ⟨_, run, Nat.le_max_left _ _, marks⟩
  · obtain ⟨table, run, length, marks⟩ :=
      exists_markers_of_several_lines positive small one short inside
    exact ⟨table, run, length.trans (Nat.le_max_right _ _), marks⟩

/-- The clamps at the ends of the window are not seen: a start that would be
below the least number is cut to zero in any case, and an end that would be
above the greatest to the number of lines. -/
theorem exists_window (location : Location) {lines : List (List Char)}
    (few : lines.length < 2 ^ 63) (short : ∀ line ∈ lines, line.length < 2 ^ 63) :
    ∃ table, window location lines =
        pure ⟨linesBefore location, lastLine location lines.length, table⟩ ∧
      table.length ≤ max 1 lines.length ∧
      Marks location lines (linesBefore location) (lastLine location lines.length) table := by
  have startLeast := location.start.line.le_toInt
  have startGreatest := location.start.line.toInt_lt
  have stopLeast := location.stop.line.le_toInt
  have total := toInt_ofIntClamp_of_lt few
  have zero := Int64.toInt_zero
  have one := Int64.toInt_one
  have above : (Int64.ofIntClamp linesAbove).toInt = linesAbove := rfl
  have below : (Int64.ofIntClamp linesBelow).toInt = linesBelow := rfl
  have start : (max (clampedDifference location.start.line
      (clampedSum (.ofIntClamp linesAbove) 1)) 0).toInt = linesBefore location := by
    rw [toInt_max, toInt_clampedDifference, toInt_clampedSum, above, linesBefore, linesAbove]
    omega
  have stop : (max (min (.ofIntClamp lines.length) (clampedSum location.stop.line
      (.ofIntClamp linesBelow))) 0).toInt = lastLine location lines.length := by
    rw [toInt_max, toInt_min, toInt_clampedSum, below, total, lastLine, linesBelow]
    omega
  have startSmall : (linesBefore location : Int) + 1 < 2 ^ 63 := by
    rw [linesBefore, linesAbove]
    omega
  have stopInside : (lastLine location lines.length : Int) ≤ lines.length :=
    Int.ofNat_le.mpr (lastLine_le _ _)
  obtain ⟨table, run, length, marks⟩ := exists_markers location short
    (by rw [start]; exact Int.natCast_nonneg _) (by rw [start]; exact startSmall)
    (by rw [stop]; exact stopInside)
  rw [start, stop, Int.toNat_natCast, Int.toNat_natCast] at marks
  refine ⟨table, ?_, length, marks⟩
  rw [window, ofPlace_eq few, pure_bind,
    exactSum_eq (by rw [above, linesAbove]; omega) (by rw [above, linesAbove]; omega), pure_bind]
  simp only [run, pure_bind]
  rw [toPlace_eq (by rw [start]; exact Int.natCast_nonneg _), pure_bind,
    toPlace_eq (by rw [stop]; exact Int.natCast_nonneg _), pure_bind, start, stop,
    Int.toNat_natCast, Int.toNat_natCast]

/-! ## Rows -/

section Rows

variable {text : List Char} (short : text.length < 2 ^ 63)
include short

/-- A clamped length gives as many carets as the length itself: the rest of the
line is a 64-bit number and cuts both off. -/
theorem caretCount_eq (column : Int64) (length : Int) :
    caretCount text column (.ofIntClamp length) =
      pure (Frame.caretCount text.length column.toInt length) := by
  have greatest := column.toInt_lt
  have one := Int64.toInt_one
  have total := toInt_ofIntClamp_of_lt short
  have rest : (clampedDifference (.ofIntClamp text.length) (max column 1)).toInt =
      text.length - max column.toInt 1 := by
    rw [toInt_clampedDifference, toInt_max, total, one]
    omega
  have available : (clampedSum (clampedDifference (.ofIntClamp text.length) (max column 1))
      1).toInt = text.length - max column.toInt 1 + 1 := by
    rw [toInt_clampedSum, rest, one]
    omega
  have carets : (max (min (.ofIntClamp length) (clampedSum (clampedDifference
      (.ofIntClamp text.length) (max column 1)) 1)) 1).toInt =
        max 1 (min length (text.length - max column.toInt 1 + 1)) := by
    rw [toInt_max, toInt_min, available, toInt_ofIntClamp_eq, one]
    omega
  rw [caretCount, ofPlace_eq short, pure_bind, exactSum_eq (by rw [rest, one]; omega)
    (by rw [rest, one]; omega), pure_bind, toPlace_eq (by rw [carets]; omega), carets,
    Frame.caretCount]

theorem caretRow_eq (width : Nat) (column : Int64) (length : Int) :
    caretRow width text column (.ofIntClamp length) =
      pure (Frame.caretRow .terminal width text column.toInt length) := by
  have least := column.le_toInt
  have greatest := column.toInt_lt
  have one := Int64.toInt_one
  have taken : (max (clampedDifference column 1) 0).toInt = max (column.toInt - 1) 0 := by
    rw [toInt_max, toInt_clampedDifference, one, Int64.toInt_zero]
    omega
  have same : (max (column.toInt - 1) 0).toNat = (column.toInt - 1).toNat := by omega
  rw [caretRow, toPlace_eq (by rw [taken]; omega), pure_bind, caretCount_eq short, pure_bind,
    taken, same]
  rfl

/-- The rows of a line whose marker is known. -/
theorem rowsAt_eq {location : Location} {window : Window} {index : Nat}
    (known : window.markers.lookup (.ofIntClamp (window.start + index + 1 : Nat)) =
      (marker? location (window.start + index + 1 : Nat) text.length).map Marker.clamp)
    (small : window.start + index + 1 < 2 ^ 63) (width : Nat) :
    rowsAt window width index text =
      pure (ShownLine.rows .terminal width ⟨window.start + index + 1, text,
        marker? location (window.start + index + 1 : Nat) text.length⟩) := by
  have order : window.start + 1 + index = window.start + index + 1 := by omega
  rw [rowsAt, placeSum_eq (by omega), pure_bind, placeSum_eq (by omega), pure_bind, order,
    ofPlace_eq small, pure_bind, known]
  cases marked : marker? location (window.start + index + 1 : Nat) text.length with
  | none => rfl
  | some marker =>
      cases marker with
      | line => rfl
      | columns column length =>
          have exact_column : Int64.toInt (.ofIntClamp column) = column := by
            rcases column_of_marker? marked with rfl | rfl
            · rw [Int64.ofIntClamp_toInt]
            · rfl
          simp only [Option.map_some, Marker.clamp, caretRow_eq short, pure_bind, exact_column]
          rfl

end Rows

/-- **The rows of the window**, by induction on its lines: each line has the rows
of the frame. -/
theorem rowsFrom_eq {location : Location} {lines : List (List Char)} {window : Window}
    {stop : Nat} (short : ∀ line ∈ lines, line.length < 2 ^ 63) (few : stop < 2 ^ 63)
    (marks : Marks location lines window.start stop window.markers) (width : Nat)
    {texts : List (List Char)} {index : Nat}
    (placed : ∀ (offset : Nat) (text : List Char), texts[offset]? = some text →
      lines[window.start + index + offset]? = some text ∧
        window.start + index + offset < stop) :
    rowsFrom window width index texts =
      pure ((numberLines location (window.start + index) texts).flatMap
        (ShownLine.rows .terminal width)) := by
  induction texts generalizing index with
  | nil => rfl
  | cons text texts ih =>
      obtain ⟨here, below⟩ := placed 0 text rfl
      rw [Nat.add_zero] at here below
      have first := rowsAt_eq (short text (List.mem_of_getElem? here))
        (marks _ text here (Nat.le_add_right _ _) below) (by omega) width
      have placedLater : ∀ (offset : Nat) (other : List Char), texts[offset]? = some other →
          lines[window.start + (index + 1) + offset]? = some other ∧
            window.start + (index + 1) + offset < stop := by
        intro offset other there
        have shift : window.start + (index + 1) + offset = window.start + index + (offset + 1) := by
          omega
        rw [shift]
        exact placed (offset + 1) other there
      have others := ih placedLater
      rw [rowsFrom, first, pure_bind, others, pure_bind, numberLines, List.flatMap_cons]
      rfl

/-- **The rows of the frame are computed without a fault.** -/
theorem rows_eq {source : List Char} (location : Location)
    (few : (splitLines source).length < 2 ^ 63)
    (short : ∀ line ∈ splitLines source, line.length < 2 ^ 63) :
    rows source location = pure (Frame.rows .terminal (shownLines source location)) := by
  obtain ⟨table, run, -, marks⟩ := exists_window location few short
  have inside := lastLine_le location (splitLines source).length
  simp only [rows, run, pure_bind]
  split
  · rename_i empty
    have none : shownLines source location = [] := by
      rw [shownLines, List.drop_eq_nil_of_le ((List.length_take_le _ _).trans empty)]
      rfl
    rw [none]
    rfl
  · rename_i nonempty
    rw [slice_eq (Nat.lt_of_not_le nonempty) inside, pure_bind, Frame.rows,
      numberWidth_shownLines (Nat.lt_of_not_le nonempty)]
    refine rowsFrom_eq short (Nat.lt_of_le_of_lt inside few) marks _ fun offset text there => ?_
    rw [List.getElem?_drop, List.getElem?_take] at there
    split at there
    · rename_i below
      exact ⟨there, below⟩
    · cases there

/-! ## Carets -/

theorem caretCount_le (lineLength : Nat) (column length : Int) :
    Frame.caretCount lineLength column length ≤ max 1 lineLength := by
  rw [Frame.caretCount]
  omega

/-- The only carets of a row of carets are those that are counted. -/
theorem count_caretRow (width : Nat) (text : List Char) (column length : Int) :
    (Frame.caretRow .terminal width text column length).count '^' =
      Frame.caretCount text.length column length := by
  have outside : '^' ∉ filler text column := by
    intro member
    obtain ⟨character, -, same⟩ := List.mem_map.mp member
    split at same
    · cases same
    · cases same
  have spaces : List.count '^' (gutter width []) = 0 := by
    rw [List.count_eq_zero, gutter]
    simp
  have inked : List.count '^' Ink.terminal.gutter = 0 ∧
      List.count '^' Ink.terminal.gutterEnd = 0 ∧ List.count '^' Ink.terminal.mark = 0 ∧
      List.count '^' Ink.terminal.markEnd = 0 := by decide
  obtain ⟨before, behind, mark, markEnd⟩ := inked
  simp [Frame.caretRow, List.count_append, List.count_replicate_self, spaces,
    before, behind, mark, markEnd, List.count_eq_zero.mpr outside]

/-- A shown line has one row, or two of which the second holds no more carets
than the line has characters, or one caret. -/
theorem rows_of_line (width : Nat) (line : ShownLine) :
    (line.rows .terminal width).length ≤ 2 ∧
      ∀ carets ∈ (line.rows .terminal width).tail,
        carets.count '^' ≤ max 1 line.text.length := by
  rw [ShownLine.rows]
  split
  · simp
  · simp
  · refine ⟨by simp, fun carets member => ?_⟩
    rw [List.tail_cons, List.mem_singleton] at member
    rw [member, count_caretRow]
    exact caretCount_le _ _ _

/-! ## The whole frame -/

/-- **Rendering is safe for every location.** No step leaves its numbers or its
list, and what comes out is the frame. The lines of the window exist, and no more
markers are made than there are lines, or one. Each shown line gets at most two
rows, the second of which has no more carets than the line has characters, or
one. -/
theorem rendering_safe (source : String) (location : Location)
    (few : (splitLines source.toList).length < 2 ^ 63) (short : source.toList.length < 2 ^ 63) :
    render source location = .ok (CodeFrame.render source location) ∧
    (∃ made, window location (splitLines source.toList) = .ok made ∧
      made.stop ≤ (splitLines source.toList).length ∧
      made.markers.length ≤ max 1 (splitLines source.toList).length) ∧
    rows source.toList location = .ok ((shownLines source.toList location).flatMap
      (ShownLine.rows .terminal (numberWidth (shownLines source.toList location)))) ∧
    ∀ line ∈ shownLines source.toList location, ∀ width,
      (line.rows .terminal width).length ≤ 2 ∧
      ∀ carets ∈ (line.rows .terminal width).tail,
        carets.count '^' ≤ max 1 line.text.length := by
  have shortLines : ∀ line ∈ splitLines source.toList, line.length < 2 ^ 63 := fun line member =>
    Nat.lt_of_le_of_lt ((cut_splitLines source.toList).length_line_le member) short
  have rowsRun := rows_eq location few shortLines
  obtain ⟨table, windowRun, length, -⟩ := exists_window location few shortLines
  refine ⟨?_, ⟨_, windowRun, lastLine_le _ _, length⟩, rowsRun, ?_⟩
  · rw [render, rowsRun, pure_bind]
    rfl
  · exact fun line _ width => rows_of_line width line

/-- Two lines, and a location from the least line to the greatest. -/
theorem rendering_safe_extreme :
    ((splitLines "a\nb".toList).length < 2 ^ 63 ∧ "a\nb".toList.length < 2 ^ 63) ∧
      render "a\nb" ⟨⟨Int64.minValue, Int64.maxValue⟩, ⟨Int64.maxValue, Int64.minValue⟩⟩ =
        .ok (CodeFrame.render "a\nb"
          ⟨⟨Int64.minValue, Int64.maxValue⟩, ⟨Int64.maxValue, Int64.minValue⟩⟩) :=
  ⟨by decide, (rendering_safe "a\nb" _ (by decide) (by decide)).1⟩

end DiagnosticReport.Frame.Checked
