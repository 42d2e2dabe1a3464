import DiagnosticReport.Proofs.Text.Parts
import DiagnosticReport.Text.Escape

/-!
# Characters that no escape sequence holds

A separator is a character that stands in no escape sequence: it starts none,
and it is no introducer, no character of an argument, no final character and no
bell. The line feed, the space, the bar of a gutter and the caret are
separators.

Reading a sequence never looks past a separator, nor past the start of another
sequence, nor past a colon that no bell follows. Each of the readers, applied to a
text that goes on there, gives what it gives on the part before, with all that
follows still unread (`afterStart?_append`). A separator therefore cuts the removal
of escape sequences in two (`stripEscapes_append_separator`): an unfinished sequence
before it stays as it is, and nothing behind it is lost.
-/

set_option autoImplicit false

namespace DiagnosticReport.Text

/-! ## One step of the removal -/

/-- A sequence that is found is dropped. -/
theorem stripEscapes_found {character : Char} {text after : List Char}
    (starts : startsEscape character = true) (found : afterStart? text = some after) :
    stripEscapes (character :: text) = stripEscapes after := by
  rw [stripEscapes, if_pos starts]
  split
  · rename_i other equal
    rw [found] at equal
    cases equal
    rfl
  · rename_i equal
    rw [found] at equal
    cases equal

/-- A start without a sequence behind it stays. -/
theorem stripEscapes_missing {character : Char} {text : List Char}
    (starts : startsEscape character = true) (missing : afterStart? text = none) :
    stripEscapes (character :: text) = character :: stripEscapes text := by
  rw [stripEscapes, if_pos starts]
  split
  · rename_i other equal
    rw [missing] at equal
    cases equal
  · rfl

/-- A character that starts no sequence stays. -/
theorem stripEscapes_plain {character : Char} {text : List Char}
    (plain : startsEscape character = false) :
    stripEscapes (character :: text) = character :: stripEscapes text := by
  rw [stripEscapes, if_neg (by simp [plain])]

/-- No character of a text starts a sequence if none does when they are tried. -/
theorem startsEscape_of_any_eq_false {text : List Char} (none : text.any startsEscape = false) :
    ∀ character ∈ text, startsEscape character = false := by
  simpa using none

/-- Characters that start no sequence stay, whatever follows them. -/
theorem stripEscapes_append_of_no_start {text : List Char} (rest : List Char)
    (plain : ∀ character ∈ text, startsEscape character = false) :
    stripEscapes (text ++ rest) = text ++ stripEscapes rest := by
  induction text with
  | nil => rfl
  | cons character text ih =>
      have here := plain character List.mem_cons_self
      have later := ih fun other member => plain other (List.mem_cons_of_mem _ member)
      rw [List.cons_append, stripEscapes_plain here, later, List.cons_append]

/-- A text in which no sequence starts stays. -/
theorem stripEscapes_of_no_start {text : List Char}
    (plain : ∀ character ∈ text, startsEscape character = false) :
    stripEscapes text = text := by
  have whole := stripEscapes_append_of_no_start [] plain
  rw [stripEscapes, List.append_nil] at whole
  exact whole

/-- The removal of sequences adds no character. -/
theorem mem_of_mem_stripEscapes {text : List Char} {character : Char}
    (member : character ∈ stripEscapes text) : character ∈ text := by
  fun_induction stripEscapes text with
  | case1 => exact member
  | case2 start text starts after found ih =>
      exact List.mem_cons_of_mem _ ((afterStart?_suffix found).subset (ih member))
  | case3 start text starts missing ih =>
      rcases List.mem_cons.mp member with rfl | later
      · exact List.mem_cons_self
      · exact List.mem_cons_of_mem _ (ih later)
  | case4 other text plain ih =>
      rcases List.mem_cons.mp member with rfl | later
      · exact List.mem_cons_self
      · exact List.mem_cons_of_mem _ (ih later)

/-! ## The close of a numeric tail -/

/-- What follows a parameter list with its final character: what stands behind
the character after the list, or else behind the last digit of the list. -/
def afterClosing? (taken : List Char) : List Char → Option (List Char)
  | [] => afterLastDigit? [] taken
  | next :: rest => if isFinalCharacter next then some rest else afterLastDigit? (next :: rest) taken

/-- A numeric tail is a parameter list, empty unless a digit comes first, and
what closes it. -/
theorem afterNumericTail?_cons (character : Char) (text : List Char) :
    afterNumericTail? (character :: text) =
      if isDecimalDigit character then
        afterClosing? (parameters 4 (character :: text)).1 (parameters 4 (character :: text)).2
      else afterClosing? [] (character :: text) := by
  by_cases digit : isDecimalDigit character = true
  · simp only [afterNumericTail?, digit, if_true]
    cases (parameters 4 (character :: text)).2 with
    | nil => rfl
    | cons next left => rfl
  · simp only [afterNumericTail?, digit, Bool.false_eq_true, if_false]
    rfl

theorem afterLastDigit?_append (left taken rest : List Char) :
    afterLastDigit? (left ++ rest) taken = (afterLastDigit? left taken).map (· ++ rest) := by
  induction taken with
  | nil => rfl
  | cons character taken ih =>
      simp only [afterLastDigit?, ih]
      cases afterLastDigit? left taken with
      | some found => rfl
      | none => by_cases digit : isDecimalDigit character = true <;> simp [digit]

/-! ## Texts in front of a character outside a class -/

section Outside

variable {holds : Char → Bool} {separator : Char} (outside : holds separator = false)
include outside

theorem head?_append_outside (text rest : List Char) :
    (text ++ separator :: rest).head?.any holds = text.head?.any holds := by
  cases text with
  | nil => simp [outside]
  | cons character text => rfl

theorem takeWhile_append_outside (text rest : List Char) :
    (text ++ separator :: rest).takeWhile holds = text.takeWhile holds := by
  induction text with
  | nil => simp [outside]
  | cons character text ih => simp only [List.cons_append, List.takeWhile_cons, ih]

theorem dropWhile_append_outside (text rest : List Char) :
    (text ++ separator :: rest).dropWhile holds = text.dropWhile holds ++ separator :: rest := by
  induction text with
  | nil => simp [outside]
  | cons character text ih =>
      simp only [List.cons_append, List.dropWhile_cons, ih]
      split
      · rfl
      · rfl

end Outside

/-! ## Bells out of reach -/

/-- The characters of an argument list. -/
def inArguments (character : Char) : Bool := character == ';' || isArgumentCharacter character

/-- A bell stands behind the argument characters at the front of a text. -/
def ReachesBell (text : List Char) : Prop := (text.dropWhile inArguments).head? = some bell

theorem inArguments_of_continuesArguments {mayBeEmpty : Bool} {character : Char} {rest : List Char}
    (continues : continuesArguments mayBeEmpty character rest = true) :
    inArguments character = true := by
  rw [continuesArguments] at continues
  split at continues
  · rename_i semicolon
    simp [inArguments, semicolon]
  · simp [inArguments, continues]

theorem afterArguments?_cons (mayBeEmpty : Bool) (character : Char) (rest : List Char) :
    afterArguments? mayBeEmpty (character :: rest) =
      if character == bell then some rest
      else if continuesArguments mayBeEmpty character rest then afterArguments? mayBeEmpty rest
      else none := rfl

/-- Without a bell in reach there is no argument list. -/
theorem afterArguments?_eq_none {text : List Char} (silent : ¬ ReachesBell text)
    (mayBeEmpty : Bool) : afterArguments? mayBeEmpty text = none := by
  induction text with
  | nil => rfl
  | cons character text ih =>
      rw [afterArguments?_cons]
      split
      · rename_i closes
        obtain rfl := beq_iff_eq.mp closes
        exact absurd rfl silent
      · split
        · rename_i continues
          refine ih ?_
          rwa [ReachesBell, List.dropWhile_cons_of_pos
            (inArguments_of_continuesArguments continues)] at silent
        · rfl

theorem inArguments_of_isWordCharacter {character : Char}
    (member : isWordCharacter character = true) : inArguments character = true := by
  simp [inArguments, isArgumentCharacter, member]

theorem inArguments_of_isDecimalDigit {character : Char}
    (member : isDecimalDigit character = true) : inArguments character = true :=
  inArguments_of_isWordCharacter (by simp [isWordCharacter, member])

/-- Argument characters in front do not matter. -/
theorem reachesBell_append {front : List Char}
    (inside : ∀ character ∈ front, inArguments character = true) (rest : List Char) :
    ReachesBell (front ++ rest) ↔ ReachesBell rest := by
  rw [ReachesBell, ReachesBell, List.dropWhile_append_of_pos inside]

/-- No bell is in reach behind any other character. -/
theorem not_reachesBell_cons {character : Char} (outside : inArguments character = false)
    (noBell : character ≠ bell) (rest : List Char) : ¬ ReachesBell (character :: rest) := by
  rw [ReachesBell, List.dropWhile_cons_of_neg (by simp [outside]), List.head?_cons]
  simpa using noBell

theorem not_reachesBell_of_no_bell {text : List Char} (absent : bell ∉ text) :
    ¬ ReachesBell text := by
  intro reached
  exact absent ((List.dropWhile_suffix _).subset (List.mem_of_mem_head? reached))

/-- Without a bell in reach there is no bell tail. -/
theorem afterBellTail?_eq_none {text : List Char} (silent : ¬ ReachesBell text) :
    afterBellTail? text = none := by
  have rest : ¬ ReachesBell (text.dropWhile isWordCharacter) := by
    rw [← List.takeWhile_append_dropWhile (p := isWordCharacter) (l := text)] at silent
    rwa [reachesBell_append] at silent
    intro character member
    exact inArguments_of_isWordCharacter (List.all_eq_true.mp List.all_takeWhile character member)
  rw [afterBellTail?]
  split
  · exact afterArguments?_eq_none rest _
  · rfl

/-- No sequence starts within an argument list. -/
theorem startsEscape_of_inArguments {character : Char} (member : inArguments character = true) :
    startsEscape character = false := by
  cases starts : startsEscape character with
  | false => rfl
  | true =>
      simp only [startsEscape, Bool.or_eq_true, beq_iff_eq] at starts
      rcases starts with rfl | rfl
      · exact absurd member (by decide)
      · exact absurd member (by decide)

/-- Argument characters alone reach no bell. -/
theorem not_reachesBell_of_inArguments {text : List Char}
    (inside : ∀ character ∈ text, inArguments character = true) : ¬ ReachesBell text := by
  have alone := reachesBell_append inside []
  rw [List.append_nil] at alone
  rw [alone]
  exact nofun

/-! ## Texts at which reading ends -/

/-- No sequence in front of `stop` goes on there, whatever it has read. -/
structure EndsReading (stop : Char) (rest : List Char) : Prop where
  introducer : isIntroducer stop = false
  word : isWordCharacter stop = false
  opens : opensArguments stop = false
  final : isFinalCharacter stop = false
  silent : ¬ ReachesBell (stop :: rest)

section Ends

variable {stop : Char} {rest : List Char} (ends : EndsReading stop rest)
include ends

theorem EndsReading.digit : isDecimalDigit stop = false := by
  have final := ends.final
  grind [isFinalCharacter]

theorem EndsReading.semicolon : (stop == ';') = false :=
  (Bool.or_eq_false_iff.mp ends.opens).2

theorem afterArguments?_append (mayBeEmpty : Bool) (text : List Char) :
    afterArguments? mayBeEmpty (text ++ stop :: rest) =
      (afterArguments? mayBeEmpty text).map (· ++ stop :: rest) := by
  have none := afterArguments?_eq_none ends.silent mayBeEmpty
  induction text with
  | nil => exact none
  | cons character text ih =>
      cases text with
      | nil =>
          -- A last semicolon is the one place where the text behind is looked at.
          rw [List.singleton_append, afterArguments?_cons, none, afterArguments?_cons]
          split
          · rfl
          · simp [afterArguments?]
      | cons next text =>
          have same : continuesArguments mayBeEmpty character (next :: text ++ stop :: rest) =
              continuesArguments mayBeEmpty character (next :: text) := rfl
          rw [List.cons_append, afterArguments?_cons, afterArguments?_cons, same, ih]
          split
          · rfl
          · split
            · rfl
            · rfl

theorem afterBellTail?_append (text : List Char) :
    afterBellTail? (text ++ stop :: rest) =
      (afterBellTail? text).map (· ++ stop :: rest) := by
  simp only [afterBellTail?, takeWhile_append_outside ends.word,
    dropWhile_append_outside ends.word, head?_append_outside ends.opens]
  split
  · exact afterArguments?_append ends _ _
  · rfl

theorem parameters_append_stop (room : Nat) (text : List Char) :
    parameters room (text ++ stop :: rest) =
      ((parameters room text).1, (parameters room text).2 ++ stop :: rest) := by
  induction text generalizing room with
  | nil => simp [parameters, ends.digit, ends.semicolon]
  | cons character text ih =>
      simp only [List.cons_append, parameters]
      split
      · cases room with
        | zero => rfl
        | succ room => simp only [ih room]
      · split
        · simp only [ih 4]
        · rfl

theorem afterClosing?_append (taken left : List Char) :
    afterClosing? taken (left ++ stop :: rest) =
      (afterClosing? taken left).map (· ++ stop :: rest) := by
  cases left with
  | nil =>
      simp only [List.nil_append, afterClosing?, ends.final, Bool.false_eq_true, if_false]
      exact afterLastDigit?_append [] taken (stop :: rest)
  | cons next left =>
      simp only [List.cons_append, afterClosing?]
      split
      · rfl
      · exact afterLastDigit?_append (next :: left) taken (stop :: rest)

theorem afterNumericTail?_append (text : List Char) :
    afterNumericTail? (text ++ stop :: rest) =
      (afterNumericTail? text).map (· ++ stop :: rest) := by
  cases text with
  | nil =>
      rw [List.nil_append, afterNumericTail?_cons, if_neg]
      · exact afterClosing?_append ends [] []
      · simp [ends.digit]
  | cons character text =>
      have whole := parameters_append_stop ends 4 (character :: text)
      rw [List.cons_append] at whole
      rw [List.cons_append, afterNumericTail?_cons, afterNumericTail?_cons, whole]
      split
      · exact afterClosing?_append ends _ _
      · exact afterClosing?_append ends [] (character :: text)

theorem afterTail?_append (text : List Char) :
    afterTail? (text ++ stop :: rest) =
      (afterTail? text).map (· ++ stop :: rest) := by
  simp only [afterTail?, afterBellTail?_append ends, afterNumericTail?_append ends, Option.map_or]

/-- Reading a sequence ends in front of such a text. -/
theorem afterStart?_append (text : List Char) :
    afterStart? (text ++ stop :: rest) =
      (afterStart? text).map (· ++ stop :: rest) := by
  induction text with
  | nil =>
      simp only [List.nil_append, afterStart?, ends.introducer, Bool.false_eq_true, if_false]
      exact afterTail?_append ends []
  | cons character text ih =>
      have now := afterTail?_append ends (character :: text)
      rw [List.cons_append] at now
      simp only [List.cons_append, afterStart?, ih, now]
      split
      · rw [Option.map_or]
      · rfl

/-- **The removal of escape sequences starts anew** where reading ends. -/
theorem stripEscapes_append (text : List Char) :
    stripEscapes (text ++ stop :: rest) = stripEscapes text ++ stripEscapes (stop :: rest) := by
  fun_induction stripEscapes text with
  | case1 => rfl
  | case2 character text starts after found ih =>
      have longer := afterStart?_append ends text
      rw [found, Option.map_some] at longer
      rw [List.cons_append, stripEscapes_found starts longer, ih]
  | case3 character text starts missing ih =>
      have longer := afterStart?_append ends text
      rw [missing, Option.map_none] at longer
      rw [List.cons_append, stripEscapes_missing starts longer, ih, List.cons_append]
  | case4 character text plain ih =>
      rw [List.cons_append, stripEscapes_plain (by simpa using plain), ih, List.cons_append]

end Ends

/-! ## Colons -/

/-- Reading ends at a colon if no bell is in reach behind it. -/
theorem endsReading_colon {rest : List Char} (silent : ¬ ReachesBell rest) :
    EndsReading ':' rest := by
  refine ⟨by decide, by decide, by decide, by decide, ?_⟩
  have front : ∀ character ∈ [':'], inArguments character = true :=
    List.forall_mem_singleton.mpr (by decide)
  exact fun reached => silent ((reachesBell_append front rest).mp reached)

/-- A colon with argument characters behind it stays, whatever the text in front
leaves open. -/
theorem stripEscapes_append_colon (text : List Char) {rest : List Char}
    (inside : ∀ character ∈ rest, inArguments character = true) :
    stripEscapes (text ++ ':' :: rest) = stripEscapes text ++ ':' :: rest := by
  have plain : ∀ character ∈ ':' :: rest, startsEscape character = false :=
    List.forall_mem_cons.mpr ⟨by decide, fun character member =>
      startsEscape_of_inArguments (inside character member)⟩
  rw [stripEscapes_append (endsReading_colon (not_reachesBell_of_inArguments inside)),
    stripEscapes_of_no_start plain]

/-! ## Characters at which reading stops -/

/-- The characters that stand in no sequence behind its start. -/
def stopsReading (character : Char) : Bool :=
  !(isIntroducer character || isArgumentCharacter character || isFinalCharacter character ||
    character == bell)

section Stop

variable {stop : Char} (stops : stopsReading stop = true)
include stops

/-- Reading ends there, whatever follows. -/
theorem endsReading_of_stopsReading (rest : List Char) : EndsReading stop rest := by
  simp only [stopsReading, Bool.not_eq_true', Bool.or_eq_false_iff] at stops
  obtain ⟨⟨⟨introducer, argument⟩, final⟩, noBell⟩ := stops
  have semicolon : (stop == ';') = false := by grind [isIntroducer]
  constructor
  case introducer => exact introducer
  case word => grind [isArgumentCharacter]
  case opens => rw [opensArguments, noBell, semicolon, Bool.or_self]
  case final => exact final
  case silent =>
    have outside : inArguments stop = false := by
      rw [inArguments, semicolon, argument, Bool.or_self]
    exact not_reachesBell_cons outside (by simpa using noBell) rest

/-- Reading a sequence stops in front of such a character. -/
theorem afterStart?_append_stop (text rest : List Char) :
    afterStart? (text ++ stop :: rest) =
      (afterStart? text).map (· ++ stop :: rest) :=
  afterStart?_append (endsReading_of_stopsReading stops rest) text

theorem stripEscapes_append_stop (text rest : List Char) :
    stripEscapes (text ++ stop :: rest) = stripEscapes text ++ stripEscapes (stop :: rest) :=
  stripEscapes_append (endsReading_of_stopsReading stops rest) text

end Stop

/-- No sequence holds a start behind its own. -/
theorem stopsReading_of_startsEscape {character : Char} (starts : startsEscape character = true) :
    stopsReading character = true := by
  simp only [startsEscape, Bool.or_eq_true, beq_iff_eq] at starts
  rcases starts with rfl | rfl
  · decide
  · decide

/-! ## Separators -/

/-- The characters that stand in no escape sequence. -/
def isSeparator (character : Char) : Bool :=
  !(startsEscape character || isIntroducer character || isArgumentCharacter character ||
    isFinalCharacter character || character == bell)

section Separator

variable {separator : Char} (separates : isSeparator separator = true)
include separates

theorem startsEscape_of_isSeparator : startsEscape separator = false := by
  grind [isSeparator]

theorem stopsReading_of_isSeparator : stopsReading separator = true := by
  grind [isSeparator, stopsReading]

/-- **A separator cuts the removal of escape sequences in two.** -/
theorem stripEscapes_append_separator (text rest : List Char) :
    stripEscapes (text ++ separator :: rest) =
      stripEscapes text ++ separator :: stripEscapes rest := by
  rw [stripEscapes_append_stop (stopsReading_of_isSeparator separates),
    stripEscapes_plain (startsEscape_of_isSeparator separates)]

/-- Rows joined by a separator lose their escape sequences each on its own. -/
theorem stripEscapes_intercalate (rows : List (List Char)) :
    stripEscapes ([separator].intercalate rows) =
      [separator].intercalate (rows.map stripEscapes) := by
  induction rows with
  | nil => exact stripEscapes_of_no_start (by simp)
  | cons row rows ih =>
      cases rows with
      | nil => simp
      | cons next rows =>
          rw [List.intercalate_cons_cons, List.append_assoc, List.singleton_append,
            stripEscapes_append_separator separates, ih]
          simp only [List.map_cons, List.intercalate_cons_cons, List.append_assoc,
            List.singleton_append]

/-- A text split at a separator loses its escape sequences part by part. -/
theorem splitOn_stripEscapes (text : List Char) :
    (stripEscapes text).splitOn separator = (text.splitOn separator).map stripEscapes := by
  have joined := stripEscapes_intercalate separates (text.splitOn separator)
  rw [List.intercalate_splitOn] at joined
  rw [joined]
  refine List.splitOn_intercalate separator ?_ ?_
  · intro part member
    obtain ⟨whole, wholeMember, rfl⟩ := List.mem_map.mp member
    intro inPart
    exact notMem_of_mem_splitOn wholeMember (mem_of_mem_stripEscapes inPart)
  · simp

end Separator

end DiagnosticReport.Text
