import DiagnosticReport.Location

/-!
# A text cut at its line breaks

`Cut text lines separators` says what it is to cut a text at the pattern "the
pair of carriage return and line feed, or else one line break": from left to
right, at the first place where the pattern fits, and with the pair preferred
there. Such a cut exists and is unique (`cut_iff`); its lines are those of
`splitLines`.

The walk of `pointAt` finds the place of an offset in this cut. A place is a
line together with a column, and its offset is the length of all lines and
separators before the line, and the column. The column stays within the line,
or is one more where the offset lies inside a pair. Every offset has exactly one
such place (`pointAt_eq_iff_liesAt`), and different offsets have different
places.
-/

set_option autoImplicit false

namespace DiagnosticReport.Text

/-! ## The cut -/

/-- The separator that a text starts with: the pair, or else one line break. -/
def leadingBreak? : List Char → Option (List Char)
  | '\r' :: '\n' :: _ => some ['\r', '\n']
  | character :: _ => if isLineBreak character then some [character] else none
  | [] => none

/-- A text is cut into lines with separators between them. No line holds a line
break, and each separator is the one that the rest of the text starts with. -/
inductive Cut : List Char → List (List Char) → List (List Char) → Prop where
  | last {line : List Char} (unbroken : ∀ character ∈ line, isLineBreak character = false) :
      Cut line [line] []
  | step {line separator rest : List Char} {lines separators : List (List Char)}
      (unbroken : ∀ character ∈ line, isLineBreak character = false)
      (leads : leadingBreak? (separator ++ rest) = some separator)
      (later : Cut rest lines separators) :
      Cut (line ++ (separator ++ rest)) (line :: lines) (separator :: separators)

/-- The separators of a text, in their order. -/
def separatorsOf : List Char → List (List Char)
  | [] => []
  | '\r' :: '\n' :: rest => ['\r', '\n'] :: separatorsOf rest
  | character :: rest =>
      if isLineBreak character then [character] :: separatorsOf rest else separatorsOf rest

/-- Lines and separators put together in turn. -/
def joinLines : List (List Char) → List (List Char) → List Char
  | [], _ => []
  | line :: lines, [] => line ++ joinLines lines []
  | line :: lines, separator :: separators => line ++ (separator ++ joinLines lines separators)

/-! ## Leading separators -/

theorem leadingBreak?_pair (rest : List Char) :
    leadingBreak? ('\r' :: '\n' :: rest) = some ['\r', '\n'] := rfl

theorem leadingBreak?_of_isLineBreak {character : Char} {rest : List Char}
    (breaks : isLineBreak character = true)
    (single : ∀ others, character = '\r' → rest = '\n' :: others → False) :
    leadingBreak? (character :: rest) = some [character] := by
  rw [leadingBreak?]
  · rw [if_pos breaks]
  · exact single

/-- A separator is the pair or one line break. -/
theorem separator_cases {separator rest : List Char}
    (leads : leadingBreak? (separator ++ rest) = some separator) :
    separator = ['\r', '\n'] ∨
      ∃ character, separator = [character] ∧ isLineBreak character = true ∧
        ∀ others, character = '\r' → rest = '\n' :: others → False := by
  generalize whole : separator ++ rest = text at leads
  unfold leadingBreak? at leads
  split at leads
  · exact .inl (Option.some.inj leads).symm
  · rename_i character others notPair
    split at leads
    · rename_i breaks
      obtain rfl := Option.some.inj leads
      refine .inr ⟨character, rfl, breaks, ?_⟩
      obtain ⟨-, rfl⟩ := List.cons.inj whole
      intro more carriage feed
      exact notPair more carriage feed
    · cases leads
  · cases leads

theorem length_separator_pos {separator rest : List Char}
    (leads : leadingBreak? (separator ++ rest) = some separator) : 1 ≤ separator.length := by
  rcases separator_cases leads with rfl | ⟨character, rfl, -, -⟩
  · decide
  · exact Nat.le_refl 1

/-! ## There is exactly one cut -/

/-- A character that is no line break goes to the front of the first line. -/
theorem Cut.cons {character : Char} {text line : List Char} {lines separators : List (List Char)}
    (plain : isLineBreak character = false) (cut : Cut text (line :: lines) separators) :
    Cut (character :: text) ((character :: line) :: lines) separators := by
  cases cut with
  | last unbroken =>
      refine .last fun other member => ?_
      rcases List.mem_cons.mp member with rfl | later
      · exact plain
      · exact unbroken other later
  | step unbroken leads later =>
      rw [← List.cons_append]
      refine .step (fun other member => ?_) leads later
      rcases List.mem_cons.mp member with rfl | deeper
      · exact plain
      · exact unbroken other deeper

theorem cut_splitLines (text : List Char) : Cut text (splitLines text) (separatorsOf text) := by
  fun_induction splitLines text with
  | case1 => exact .last (by simp)
  | case2 rest ih =>
      exact @Cut.step [] ['\r', '\n'] rest _ _ (by simp) (leadingBreak?_pair rest) ih
  | case3 character rest notPair breaks ih =>
      rw [separatorsOf, if_pos breaks]
      · exact @Cut.step [] [character] rest _ _ (by simp)
          (leadingBreak?_of_isLineBreak breaks notPair) ih
      · exact notPair
  | case4 character rest notPair plain ih =>
      rw [separatorsOf, if_neg plain]
      · cases lines : splitLines rest with
        | nil => rw [lines] at ih; cases ih
        | cons line others =>
            rw [lines] at ih
            exact ih.cons (by simpa using plain)
      · exact notPair

/-- A line break in front of which nothing stands is a separator of its own. -/
theorem splitLines_of_leads {separator rest : List Char}
    (leads : leadingBreak? (separator ++ rest) = some separator) :
    splitLines (separator ++ rest) = [] :: splitLines rest ∧
      separatorsOf (separator ++ rest) = separator :: separatorsOf rest := by
  rcases separator_cases leads with rfl | ⟨character, rfl, breaks, single⟩
  · exact ⟨rfl, rfl⟩
  · rw [List.singleton_append]
    constructor
    · rw [splitLines, if_pos breaks]
      exact single
    · rw [separatorsOf, if_pos breaks]
      exact single

/-- An unbroken piece goes to the front of the first line. -/
theorem splitLines_append_unbroken {piece rest first : List Char} {others : List (List Char)}
    (unbroken : ∀ character ∈ piece, isLineBreak character = false)
    (lines : splitLines rest = first :: others) :
    splitLines (piece ++ rest) = (piece ++ first) :: others ∧
      separatorsOf (piece ++ rest) = separatorsOf rest := by
  induction piece with
  | nil => exact ⟨lines, rfl⟩
  | cons character piece ih =>
      have plain := unbroken character List.mem_cons_self
      obtain ⟨ihLines, ihSeparators⟩ :=
        ih fun other member => unbroken other (List.mem_cons_of_mem _ member)
      have notPair : ∀ more, character = '\r' → piece ++ rest = '\n' :: more → False := by
        intro more carriage _
        rw [carriage] at plain
        exact absurd plain (by decide)
      constructor
      · rw [List.cons_append, splitLines, if_neg (by simp [plain]), ihLines]
        · rfl
        · exact notPair
      · rw [List.cons_append, separatorsOf, if_neg (by simp [plain]), ihSeparators]
        exact notPair

/-- **A text is cut in exactly one way.** -/
theorem cut_iff {text : List Char} {lines separators : List (List Char)} :
    Cut text lines separators ↔ lines = splitLines text ∧ separators = separatorsOf text := by
  constructor
  · intro cut
    induction cut with
    | last unbroken =>
        obtain ⟨whole, none⟩ := @splitLines_append_unbroken _ [] _ _ unbroken rfl
        rw [List.append_nil] at whole none
        exact ⟨whole.symm, none.symm⟩
    | step unbroken leads later ih =>
        obtain ⟨breakLines, breakSeparators⟩ := splitLines_of_leads leads
        obtain ⟨pieceLines, pieceSeparators⟩ := splitLines_append_unbroken unbroken breakLines
        obtain ⟨rfl, rfl⟩ := ih
        rw [pieceLines, pieceSeparators, breakSeparators, List.append_nil]
        exact ⟨rfl, rfl⟩
  · rintro ⟨rfl, rfl⟩
    exact cut_splitLines text

theorem Cut.joinLines_eq {text : List Char} {lines separators : List (List Char)}
    (cut : Cut text lines separators) : joinLines lines separators = text := by
  induction cut with
  | last unbroken => rw [joinLines, joinLines, List.append_nil]
  | step unbroken leads later ih => rw [joinLines, ih]

theorem Cut.length_lines {text : List Char} {lines separators : List (List Char)}
    (cut : Cut text lines separators) : lines.length = separators.length + 1 := by
  induction cut with
  | last unbroken => rfl
  | step unbroken leads later ih => rw [List.length_cons, List.length_cons, ih]

/-- The lines of a text hold characters of the text only, and no line break. -/
theorem Cut.mem_of_mem_line {text : List Char} {lines separators : List (List Char)}
    (cut : Cut text lines separators) {line : List Char} (member : line ∈ lines)
    {character : Char} (inside : character ∈ line) :
    character ∈ text ∧ isLineBreak character = false := by
  induction cut with
  | last unbroken =>
      obtain rfl := List.mem_singleton.mp member
      exact ⟨inside, unbroken character inside⟩
  | step unbroken leads later ih =>
      rcases List.mem_cons.mp member with rfl | deeper
      · exact ⟨List.mem_append_left _ inside, unbroken character inside⟩
      · obtain ⟨inRest, plain⟩ := ih deeper
        exact ⟨List.mem_append_right _ (List.mem_append_right _ inRest), plain⟩

/-- No line of a text is longer than the text. -/
theorem Cut.length_line_le {text : List Char} {lines separators : List (List Char)}
    (cut : Cut text lines separators) {line : List Char} (member : line ∈ lines) :
    line.length ≤ text.length := by
  induction cut with
  | last unbroken => exact Nat.le_of_eq (congrArg List.length (List.mem_singleton.mp member))
  | step unbroken leads later ih =>
      rw [List.length_append, List.length_append]
      rcases List.mem_cons.mp member with rfl | deeper
      · exact Nat.le_add_right _ _
      · have inRest := ih deeper
        omega

/-! ## Places in a cut -/

/-- The length of the first lines with the separators behind them. -/
def lengthBefore (lines separators : List (List Char)) (count : Nat) : Nat :=
  (lines.take count).flatten.length + (separators.take count).flatten.length

/-- The offset of a point in a cut text. -/
def offsetOf (lines separators : List (List Char)) (point : Point) : Nat :=
  lengthBefore lines separators point.line + point.column

/-- An offset between the two characters of a pair. -/
def InsidePair (lines separators : List (List Char)) (offset : Nat) : Prop :=
  ∃ index line, lines[index]? = some line ∧ separators[index]? = some ['\r', '\n'] ∧
    offset = lengthBefore lines separators index + line.length + 1

/-- A point is the place of an offset: it has this offset, and its column is
within its line, or one behind it for an offset inside a pair. -/
structure LiesAt (lines separators : List (List Char)) (offset : Nat) (point : Point) : Prop where
  /-- As many separators come before the line as there are lines before it. -/
  line_le : point.line ≤ separators.length
  /-- The line and the column make up the offset. -/
  offset_eq : offsetOf lines separators point = offset
  /-- The line exists and bounds the column. -/
  bounded : ∃ line, lines[point.line]? = some line ∧
    (InsidePair lines separators offset → point.column = line.length + 1) ∧
    (¬ InsidePair lines separators offset → point.column ≤ line.length)

/-- A point within a cut, one column behind its line at most, and that only in
front of a line feed. -/
def Within (lines separators : List (List Char)) (point : Point) : Prop :=
  ∃ line, lines[point.line]? = some line ∧
    (point.column ≤ line.length ∨
      separators[point.line]? = some ['\r', '\n'] ∧ point.column = line.length + 1)

theorem lengthBefore_cons (line separator : List Char) (lines separators : List (List Char))
    (count : Nat) :
    lengthBefore (line :: lines) (separator :: separators) (count + 1) =
      line.length + separator.length + lengthBefore lines separators count := by
  simp only [lengthBefore, List.take_succ_cons, List.flatten_cons, List.length_append]
  omega

theorem offsetOf_firstLine (lines separators : List (List Char)) (column : Nat) :
    offsetOf lines separators ⟨0, column⟩ = column := by
  simp [offsetOf, lengthBefore]

theorem offsetOf_add (lines separators : List (List Char)) (point : Point) (more : Nat) :
    offsetOf lines separators ⟨point.line, point.column + more⟩ =
      offsetOf lines separators point + more :=
  (Nat.add_assoc _ _ _).symm

theorem offsetOf_laterLine (line separator : List Char) (lines separators : List (List Char))
    (index column : Nat) :
    offsetOf (line :: lines) (separator :: separators) ⟨index + 1, column⟩ =
      line.length + separator.length + offsetOf lines separators ⟨index, column⟩ := by
  simp only [offsetOf, lengthBefore_cons]
  omega

theorem within_laterLine {line separator : List Char} {lines separators : List (List Char)}
    {index column : Nat} :
    Within (line :: lines) (separator :: separators) ⟨index + 1, column⟩ ↔
      Within lines separators ⟨index, column⟩ := by
  simp [Within]

/-- The column of a point of the first line stays in front of the separator's
end. -/
theorem Within.column_lt {line separator : List Char} {lines separators : List (List Char)}
    {column : Nat} (within : Within (line :: lines) (separator :: separators) ⟨0, column⟩)
    (positive : 1 ≤ separator.length) : column < line.length + separator.length := by
  obtain ⟨first, here, bound⟩ := within
  simp only at here bound
  obtain rfl : line = first := by simpa using here
  rcases bound with inside | ⟨pair, behind⟩
  · omega
  · obtain rfl : separator = ['\r', '\n'] := by simpa using pair
    simp only [List.length_cons, List.length_nil]
    omega

/-- **Different points within a cut have different offsets.** -/
theorem Cut.offsetOf_injective {text : List Char} {lines separators : List (List Char)}
    (cut : Cut text lines separators) {first second : Point}
    (withinFirst : Within lines separators first) (withinSecond : Within lines separators second)
    (same : offsetOf lines separators first = offsetOf lines separators second) :
    first = second := by
  obtain ⟨firstLine, firstColumn⟩ := first
  obtain ⟨secondLine, secondColumn⟩ := second
  induction cut generalizing firstLine secondLine with
  | last unbroken =>
      obtain ⟨_, firstHere, -⟩ := withinFirst
      obtain ⟨_, secondHere, -⟩ := withinSecond
      obtain rfl : firstLine = 0 := by
        have := (List.getElem?_eq_some_iff.mp firstHere).1
        simpa using this
      obtain rfl : secondLine = 0 := by
        have := (List.getElem?_eq_some_iff.mp secondHere).1
        simpa using this
      rw [offsetOf_firstLine, offsetOf_firstLine] at same
      rw [same]
  | step unbroken leads later ih =>
      have positive := length_separator_pos leads
      cases firstLine with
      | zero =>
          have firstShort := withinFirst.column_lt positive
          rw [offsetOf_firstLine] at same
          cases secondLine with
          | zero => rw [same, offsetOf_firstLine]
          | succ secondLine =>
              rw [offsetOf_laterLine] at same
              omega
      | succ firstLine =>
          rw [offsetOf_laterLine] at same
          cases secondLine with
          | zero =>
              have secondShort := withinSecond.column_lt positive
              rw [offsetOf_firstLine] at same
              omega
          | succ secondLine =>
              rw [offsetOf_laterLine] at same
              have inner := ih _ (within_laterLine.mp withinFirst) _
                (within_laterLine.mp withinSecond) (by omega)
              obtain ⟨rfl, rfl⟩ := Point.mk.inj inner
              rfl

/-- The place of an offset is the point within the cut that has this offset. -/
theorem Cut.liesAt_iff {text : List Char} {lines separators : List (List Char)}
    (cut : Cut text lines separators) {offset : Nat} {point : Point} :
    LiesAt lines separators offset point ↔
      Within lines separators point ∧ offsetOf lines separators point = offset := by
  constructor
  · rintro ⟨-, sameOffset, line, here, inPair, outside⟩
    refine ⟨⟨line, here, ?_⟩, sameOffset⟩
    by_cases inside : InsidePair lines separators offset
    · -- both points in front of the carriage return have the same offset
      have column := inPair inside
      obtain ⟨index, pairLine, there, pair, pairOffset⟩ := inside
      have ends : (⟨point.line, line.length⟩ : Point) = ⟨index, pairLine.length⟩ := by
        refine cut.offsetOf_injective ⟨line, here, .inl (Nat.le_refl _)⟩
          ⟨pairLine, there, .inl (Nat.le_refl _)⟩ ?_
        simp only [offsetOf] at sameOffset ⊢
        omega
      obtain ⟨rfl, -⟩ := Point.mk.inj ends
      exact .inr ⟨pair, column⟩
    · exact .inl (outside inside)
  · rintro ⟨within, sameOffset⟩
    obtain ⟨line, here, bound⟩ := id within
    have exists_line := (List.getElem?_eq_some_iff.mp here).1
    have counts := cut.length_lines
    refine ⟨by omega, sameOffset, line, here, ?_, ?_⟩
    · rintro ⟨index, pairLine, there, pair, pairOffset⟩
      have point_eq : point = ⟨index, pairLine.length + 1⟩ := by
        refine cut.offsetOf_injective within ⟨pairLine, there, .inr ⟨pair, rfl⟩⟩ ?_
        simp only [offsetOf] at sameOffset ⊢
        omega
      subst point_eq
      obtain rfl : line = pairLine := Option.some.inj (here.symm.trans there)
      rfl
    · intro outside
      rcases bound with inside | ⟨pair, behind⟩
      · exact inside
      · refine absurd ⟨point.line, line, here, pair, ?_⟩ outside
        simp only [offsetOf] at sameOffset
        omega

/-- From a place within its line a text goes on with the rest of the line and
then with the separator behind it, if the line is not the last. -/
theorem Cut.drop_offsetOf {text : List Char} {lines separators : List (List Char)}
    (cut : Cut text lines separators) {index column : Nat} {line : List Char}
    (here : lines[index]? = some line) (inside : column ≤ line.length) :
    ∃ rest, text.drop (offsetOf lines separators ⟨index, column⟩) = line.drop column ++ rest ∧
      (rest = [] ∧ separators[index]? = none ∨
        ∃ separator, separators[index]? = some separator ∧
          leadingBreak? rest = some separator) := by
  induction cut generalizing index with
  | last unbroken =>
      cases index with
      | zero =>
          obtain rfl := Option.some.inj here
          rw [offsetOf_firstLine]
          exact ⟨[], (List.append_nil _).symm, .inl ⟨rfl, rfl⟩⟩
      | succ index => cases here
  | @step first separator rest lines separators unbroken leads later ih =>
      cases index with
      | zero =>
          obtain rfl := Option.some.inj here
          rw [offsetOf_firstLine, List.drop_append_of_le_length inside]
          exact ⟨separator ++ rest, rfl, .inr ⟨separator, rfl, leads⟩⟩
      | succ index =>
          obtain ⟨others, place, follows⟩ := ih here
          refine ⟨others, ?_, follows⟩
          rw [offsetOf_laterLine, ← place, ← List.append_assoc, ← List.length_append,
            ← List.drop_drop, List.drop_left]

/-! ## The walk of an offset -/

/-- Walking from a later line counts its lines further. -/
theorem pointFrom_later (count : Nat) (here : Point) (text : List Char) (offset : Nat) :
    pointFrom ⟨here.line + count, here.column⟩ text offset =
      ⟨(pointFrom here text offset).line + count, (pointFrom here text offset).column⟩ := by
  fun_induction pointFrom here text offset with
  | case1 here offset => rw [pointFrom]
  | case2 here text notEmpty => rw [pointFrom]; exact notEmpty
  | case3 here rest => rfl
  | case4 here rest offset ih =>
      rw [pointFrom, ← ih, Nat.add_right_comm]
  | case5 here character rest offset notInside notPair breaks ih =>
      rw [pointFrom, if_pos breaks, ← ih, Nat.add_right_comm]
      · exact notInside
      · exact notPair
  | case6 here character rest offset notInside notPair plain ih =>
      rw [pointFrom, if_neg plain, ← ih]
      · exact notInside
      · exact notPair

theorem pointFrom_zero (here : Point) (text : List Char) : pointFrom here text 0 = here := by
  cases text with
  | nil => rfl
  | cons character text =>
      rw [pointFrom]
      simp

theorem pointFrom_cons_unbroken {character : Char} (plain : isLineBreak character = false)
    (here : Point) (rest : List Char) (offset : Nat) :
    pointFrom here (character :: rest) (offset + 1) =
      pointFrom ⟨here.line, here.column + 1⟩ rest offset := by
  have notCarriage : character ≠ '\r' := by
    rintro rfl
    exact absurd plain (by decide)
  rw [pointFrom, if_neg (by simp [plain])]
  · intro others carriage
    exact absurd carriage notCarriage
  · intro others _ carriage
    exact absurd carriage notCarriage

/-- Along an unbroken line the column grows with the offset. -/
theorem pointFrom_append_unbroken {line : List Char}
    (unbroken : ∀ character ∈ line, isLineBreak character = false) (here : Point)
    (rest : List Char) (offset : Nat) :
    pointFrom here (line ++ rest) (line.length + offset) =
      pointFrom ⟨here.line, here.column + line.length⟩ rest offset := by
  induction line generalizing here with
  | nil => rw [List.length_nil, Nat.zero_add, List.nil_append, Nat.add_zero]
  | cons character line ih =>
      have plain := unbroken character List.mem_cons_self
      have later := ih fun other member => unbroken other (List.mem_cons_of_mem _ member)
      rw [List.length_cons, List.cons_append, Nat.add_right_comm, pointFrom_cons_unbroken plain,
        later, Nat.add_right_comm here.column, Nat.add_assoc]

/-- An offset within the first line is the column there. -/
theorem pointAt_append_unbroken {line : List Char}
    (unbroken : ∀ character ∈ line, isLineBreak character = false) (rest : List Char)
    {offset : Nat} (short : offset ≤ line.length) :
    pointAt (line ++ rest) offset = ⟨0, offset⟩ := by
  have taken : ∀ character ∈ line.take offset, isLineBreak character = false :=
    fun character member => unbroken character (List.mem_of_mem_take member)
  have along := pointFrom_append_unbroken taken ⟨0, 0⟩ (line.drop offset ++ rest) 0
  rw [← List.append_assoc, List.take_append_drop, pointFrom_zero, List.length_take,
    Nat.min_eq_left short, Nat.add_zero, Nat.zero_add] at along
  exact along

/-- Behind a separator the walk starts on the next line. -/
theorem pointFrom_append_separator {separator rest : List Char}
    (leads : leadingBreak? (separator ++ rest) = some separator) (here : Point) (offset : Nat) :
    pointFrom here (separator ++ rest) (separator.length + offset) =
      pointFrom ⟨here.line + 1, 0⟩ rest offset := by
  rcases separator_cases leads with rfl | ⟨character, rfl, breaks, single⟩
  · rw [List.length_cons, List.length_singleton, Nat.add_comm]
    rfl
  · rw [List.length_singleton, List.singleton_append, Nat.add_comm, pointFrom, if_pos breaks]
    · intro others carriage feed
      exact absurd feed (single others carriage)
    · intro others _ carriage feed
      exact absurd feed (single others carriage)

/-- The walk of an offset ends within the cut, at that offset. -/
theorem Cut.within_pointAt {text : List Char} {lines separators : List (List Char)}
    (cut : Cut text lines separators) (offset : Nat) :
    Within lines separators (pointAt text offset) ∧
      offsetOf lines separators (pointAt text offset) = min offset text.length := by
  induction cut generalizing offset with
  | @last line unbroken =>
      have place : pointAt line offset = ⟨0, min offset line.length⟩ := by
        rcases Nat.le_total offset line.length with short | long
        · have along := pointAt_append_unbroken unbroken [] short
          rw [List.append_nil] at along
          rw [along, Nat.min_eq_left short]
        · obtain ⟨more, rfl⟩ := Nat.exists_eq_add_of_le long
          have along := pointFrom_append_unbroken unbroken ⟨0, 0⟩ [] more
          rw [List.append_nil, Nat.zero_add] at along
          rw [pointAt, along, Nat.min_eq_right long]
          rfl
      rw [place, offsetOf_firstLine]
      exact ⟨⟨line, rfl, .inl (Nat.min_le_right _ _)⟩, rfl⟩
  | @step line separator rest lines separators unbroken leads later ih =>
      rw [List.length_append, List.length_append]
      rcases Nat.lt_or_ge line.length offset with long | short
      · obtain ⟨more, rfl⟩ := Nat.exists_eq_add_of_lt long
        rw [Nat.add_assoc, pointAt, pointFrom_append_unbroken unbroken, Nat.zero_add]
        rcases Nat.lt_or_ge (more + 1) separator.length with inside | behind
        · -- only the pair is long enough for an offset inside
          obtain rfl : separator = ['\r', '\n'] := by
            rcases separator_cases leads with pair | ⟨character, rfl, -, -⟩
            · exact pair
            · rw [List.length_singleton] at inside
              omega
          obtain rfl : more = 0 := by
            simp only [List.length_cons, List.length_nil] at inside
            omega
          refine ⟨⟨line, rfl, .inr ⟨rfl, rfl⟩⟩, ?_⟩
          rw [List.cons_append, List.cons_append, pointFrom, offsetOf_firstLine]
          simp only [List.length_cons, List.length_nil]
          omega
        · obtain ⟨further, split⟩ := Nat.exists_eq_add_of_le behind
          have walk := pointFrom_later 1 ⟨0, 0⟩ rest further
          obtain ⟨within, sameOffset⟩ := ih further
          rw [pointAt] at within sameOffset
          rw [split, pointFrom_append_separator leads, walk, offsetOf_laterLine]
          refine ⟨within_laterLine.mpr within, ?_⟩
          rw [sameOffset]
          omega
      · rw [pointAt_append_unbroken unbroken _ short, offsetOf_firstLine]
        exact ⟨⟨line, rfl, .inl short⟩, by omega⟩

/-- **Every offset has exactly one place, where its walk ends.** -/
theorem pointAt_eq_iff_liesAt {text : List Char} {offset : Nat} {point : Point} :
    point = pointAt text offset ↔
      LiesAt (splitLines text) (separatorsOf text) (min offset text.length) point := by
  have cut := cut_splitLines text
  obtain ⟨within, sameOffset⟩ := cut.within_pointAt offset
  rw [cut.liesAt_iff]
  constructor
  · rintro rfl
    exact ⟨within, sameOffset⟩
  · rintro ⟨otherWithin, otherOffset⟩
    exact cut.offsetOf_injective otherWithin within (otherOffset.trans sameOffset.symm)

/-- Different offsets into a text have different places. -/
theorem pointAt_injective {text : List Char} {first second : Nat} (firstIn : first ≤ text.length)
    (secondIn : second ≤ text.length) (same : pointAt text first = pointAt text second) :
    first = second := by
  have firstPlace := ((cut_splitLines text).within_pointAt first).2
  have secondPlace := ((cut_splitLines text).within_pointAt second).2
  rw [same, secondPlace, Nat.min_eq_left firstIn, Nat.min_eq_left secondIn] at firstPlace
  exact firstPlace.symm

/-- Every line but the last takes at least one character, its separator. -/
theorem Cut.le_lengthBefore {text : List Char} {lines separators : List (List Char)}
    (cut : Cut text lines separators) {count : Nat} (short : count ≤ separators.length) :
    count ≤ lengthBefore lines separators count := by
  induction cut generalizing count with
  | last unbroken =>
      rw [List.length_nil] at short
      omega
  | step unbroken leads later ih =>
      have positive := length_separator_pos leads
      cases count with
      | zero => exact Nat.zero_le _
      | succ count =>
          rw [List.length_cons] at short
          have below := ih (Nat.le_of_succ_le_succ short)
          rw [lengthBefore_cons]
          omega

/-- The line and the column of an offset together are at most the offset. -/
theorem pointAt_add_le (text : List Char) (offset : Nat) :
    (pointAt text offset).line + (pointAt text offset).column ≤ min offset text.length := by
  have place := pointAt_eq_iff_liesAt.mp (rfl : pointAt text offset = pointAt text offset)
  have below := (cut_splitLines text).le_lengthBefore place.line_le
  have sameOffset := place.offset_eq
  rw [offsetOf] at sameOffset
  omega

end DiagnosticReport.Text
