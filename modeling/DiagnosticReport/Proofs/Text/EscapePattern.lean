import DiagnosticReport.Proofs.Text.EscapeSeparation
import DiagnosticReport.Proofs.Text.Pattern

/-!
# The pattern of an escape sequence

Escape sequences are described by one pattern with preferences:

```text
[ESC CSI] [\[\]()#;?]*
  (?: (?: (?: ;[-a-zA-Z\d/#&.:=?%@~_]+ )* | [a-zA-Z\d]+ (?: ;[-a-zA-Z\d/#&.:=?%@~_]* )* )? BEL
    | (?: \d{1,4} (?: ;\d{0,4} )* )? [\dA-PR-TZcf-ntqry=><~] )
```

The readers of `Text.Escape` never take a choice back: they look at each character
once, and decide where a pattern would try. They find what the pattern prefers
(`preferred?_sequence`), for two reasons. A bell stands at the end of a bell tail
only, so all readings of such a tail end at the same bell. And a parameter list
that is given back piece by piece first ends in front of a final character where
its last digit is one.

So the removal of escape sequences removes the matches of a scan with the pattern,
and nothing else (`strip_scans`).
-/

set_option autoImplicit false

namespace DiagnosticReport.Text

/-- A class of characters, as it is written in a pattern. -/
structure CharacterClass where
  characters : String := ""
  /-- The first and the last character of each range. -/
  ranges : List (Char × Char) := []
  /-- Whether the decimal digits of all scripts belong to it. -/
  digits : Bool := false

namespace CharacterClass

def holds (members : CharacterClass) (character : Char) : Bool :=
  members.characters.toList.contains character ||
    members.ranges.any (fun (first, last) => first ≤ character && character ≤ last) ||
    (members.digits && isDecimalDigit character)

/-- One character of a class. -/
def one (members : CharacterClass) : Pattern := .one members.holds

end CharacterClass

namespace EscapePattern

/-! ## The pattern -/

def start : CharacterClass := ⟨"\x1b\u009b", [], false⟩

def introducer : CharacterClass := ⟨"[]()#;?", [], false⟩

def semicolon : CharacterClass := ⟨";", [], false⟩

def argument : CharacterClass := ⟨"-/#&.:=?%@~_", [('a', 'z'), ('A', 'Z')], true⟩

def word : CharacterClass := ⟨"", [('a', 'z'), ('A', 'Z')], true⟩

def closingBell : CharacterClass := ⟨"\x07", [], false⟩

def digit : CharacterClass := ⟨"", [], true⟩

def final : CharacterClass := ⟨"Zctqry=><~", [('A', 'P'), ('R', 'T'), ('f', 'n')], true⟩

/-- Items, each behind a semicolon. -/
def behindSemicolons (item : Pattern) : Pattern := .many (.seq semicolon.one item)

/-- A payload, which may be missing, and a bell. -/
def bellTail : Pattern :=
  .seq
    (.optional (.either
      (behindSemicolons (.atLeastOne argument.one))
      (.seq (.atLeastOne word.one) (behindSemicolons (.many argument.one)))))
    closingBell.one

/-- A parameter list, which may be missing, and a final character. -/
def numericTail : Pattern :=
  .seq
    (.optional (.seq (.seq digit.one (.upTo 3 digit.one)) (behindSemicolons (.upTo 4 digit.one))))
    final.one

/-- An escape sequence. -/
def sequence : Pattern :=
  .seq start.one (.seq (.many introducer.one) (.either bellTail numericTail))

/-! ## The classes -/

/-- The letters of ASCII are two ranges. -/
theorem isAlpha_iff (character : Char) :
    character.isAlpha = true ↔
      ('a' ≤ character ∧ character ≤ 'z') ∨ ('A' ≤ character ∧ character ≤ 'Z') := by
  have letter : character.isAlpha = (character.isUpper || character.isLower) := rfl
  have upper : character.isUpper = true ↔ 'A' ≤ character ∧ character ≤ 'Z' := decide_eq_true_iff
  have lower : character.isLower = true ↔ 'a' ≤ character ∧ character ≤ 'z' := by
    change (decide ('a' ≤ character) && decide (character ≤ 'z')) = true ↔ _
    rw [Bool.and_eq_true, decide_eq_true_eq, decide_eq_true_eq]
  rw [letter, Bool.or_eq_true, upper, lower]
  exact or_comm

theorem holds_start : start.holds = startsEscape := by
  funext character
  rw [Bool.eq_iff_iff]
  simp [CharacterClass.holds, start, startsEscape]

theorem holds_introducer : introducer.holds = isIntroducer := by
  funext character
  rw [Bool.eq_iff_iff]
  simp [CharacterClass.holds, introducer, isIntroducer, or_assoc]

theorem holds_semicolon : semicolon.holds = (· == ';') := by
  funext character
  rw [Bool.eq_iff_iff]
  simp [CharacterClass.holds, semicolon]

theorem holds_word : word.holds = isWordCharacter := by
  funext character
  rw [Bool.eq_iff_iff]
  simp [CharacterClass.holds, word, isWordCharacter, isAlpha_iff]

theorem holds_argument : argument.holds = isArgumentCharacter := by
  funext character
  rw [Bool.eq_iff_iff]
  simp [CharacterClass.holds, argument, isArgumentCharacter, isWordCharacter, isAlpha_iff,
    or_assoc, or_comm, or_left_comm]

theorem holds_closingBell : closingBell.holds = (· == bell) := by
  funext character
  rw [Bool.eq_iff_iff]
  simp [CharacterClass.holds, closingBell, bell]

theorem holds_digit : digit.holds = isDecimalDigit := by
  funext character
  simp [CharacterClass.holds, digit]

theorem holds_final : final.holds = isFinalCharacter := by
  funext character
  rw [Bool.eq_iff_iff]
  simp [CharacterClass.holds, final, isFinalCharacter, or_assoc, or_comm, or_left_comm]

/-! ## Bell tails -/

/-- What is left behind one closing character. -/
def close? (holds : Char → Bool) : List Char → Option (List Char)
  | [] => none
  | character :: rest => if holds character then some rest else none

theorem findSome?_one (holds : Char → Bool) (text : List Char) :
    ((Pattern.one holds).rests text).findSome? some = close? holds text := by
  cases text with
  | nil => rfl
  | cons character rest => exact Pattern.findSome?_one_cons some holds character rest

theorem opensArguments_of_isArgumentCharacter {character : Char}
    (member : isArgumentCharacter character = true) : opensArguments character = false := by
  cases opens : opensArguments character with
  | false => rfl
  | true =>
      rw [opensArguments, Bool.or_eq_true, beq_iff_eq, beq_iff_eq] at opens
      rcases opens with rfl | rfl
      · exact absurd member (by decide)
      · exact absurd member (by decide)

/-- What is left behind a list of items, each behind a semicolon, and a bell. -/
def behindItems? (item : Pattern) (text : List Char) : Option (List Char) :=
  ((Pattern.many (.seq (.one (· == ';')) item)).rests text).findSome? (close? (· == bell))

theorem behindItems?_nil (item : Pattern) : behindItems? item [] = none :=
  Pattern.findSome?_many_seq_one_nil _ _ _

theorem behindItems?_cons (item : Pattern) (character : Char) (text : List Char) :
    behindItems? item (character :: text) =
      (if character == ';' then (item.rests text).findSome? (behindItems? item)
      else none).or (if character == bell then some text else none) :=
  Pattern.findSome?_many_seq_one_cons _ _ _ _ _

/-- A list opens with a semicolon, or closes at once. -/
theorem behindItems?_of_not_opens (item : Pattern) {character : Char} (text : List Char)
    (plain : opensArguments character = false) : behindItems? item (character :: text) = none := by
  simp only [opensArguments, Bool.or_eq_false_iff] at plain
  simp [behindItems?_cons, plain]

/-- An argument, which may be empty or not. -/
def argumentItem (mayBeEmpty : Bool) : Pattern :=
  if mayBeEmpty then .many (.one isArgumentCharacter) else .atLeastOne (.one isArgumentCharacter)

/-- What is left behind the rest of an argument, more arguments and a bell. -/
def behindArgument? (mayBeEmpty : Bool) (text : List Char) : Option (List Char) :=
  ((Pattern.many (.one isArgumentCharacter)).rests text).findSome?
    (behindItems? (argumentItem mayBeEmpty))

theorem behindArgument?_cons (mayBeEmpty : Bool) (character : Char) (text : List Char) :
    behindArgument? mayBeEmpty (character :: text) =
      if isArgumentCharacter character then behindArgument? mayBeEmpty text
      else behindItems? (argumentItem mayBeEmpty) (character :: text) := by
  rw [behindArgument?, Pattern.findSome?_many_one_cons]
  split
  · rename_i member
    rw [behindItems?_of_not_opens _ _ (opensArguments_of_isArgumentCharacter member),
      Option.or_none]
    rfl
  · exact Option.none_or

/-- An argument that may not be empty starts with one of its characters. -/
theorem findSome?_argumentItem (mayBeEmpty : Bool) (text : List Char) :
    ((argumentItem mayBeEmpty).rests text).findSome? (behindItems? (argumentItem mayBeEmpty)) =
      if mayBeEmpty || text.head?.any isArgumentCharacter then behindArgument? mayBeEmpty text
      else none := by
  cases mayBeEmpty with
  | true => rfl
  | false =>
      cases text with
      | nil => rfl
      | cons character text =>
          rw [behindArgument?_cons]
          refine (Pattern.findSome?_seq _ _ _ _).trans ?_
          rw [Pattern.findSome?_one_cons]
          cases member : isArgumentCharacter character with
          | false => simp [member]
          | true => simp [member, behindArgument?]

/-- Giving characters of an argument back does not help, so they are read once. -/
theorem behindArgument?_eq (mayBeEmpty : Bool) (text : List Char) :
    behindArgument? mayBeEmpty text = afterArguments? mayBeEmpty text := by
  induction text with
  | nil => exact (Pattern.findSome?_many_one_nil _ _).trans (behindItems?_nil _)
  | cons character text ih =>
      rw [behindArgument?_cons, behindItems?_cons, findSome?_argumentItem, ih, afterArguments?,
        continuesArguments]
      cases member : isArgumentCharacter character with
      | true =>
          have plain := opensArguments_of_isArgumentCharacter member
          simp only [opensArguments, Bool.or_eq_false_iff] at plain
          simp [plain]
      | false =>
          by_cases closes : character = bell
          · simp [closes, bell]
          · by_cases semicolon : character = ';'
            · simp [semicolon, bell]
            · simp [closes, semicolon]

theorem behindItems?_eq (mayBeEmpty : Bool) (text : List Char) :
    behindItems? (argumentItem mayBeEmpty) text =
      if text.head?.any opensArguments then afterArguments? mayBeEmpty text else none := by
  cases text with
  | nil => exact behindItems?_nil _
  | cons character text =>
      cases opens : opensArguments character with
      | false => simp [behindItems?_of_not_opens _ _ opens, opens]
      | true =>
          have outside : isArgumentCharacter character = false := by
            cases member : isArgumentCharacter character with
            | false => rfl
            | true => simpa [opens] using opensArguments_of_isArgumentCharacter member
          rw [← behindArgument?_eq, behindArgument?_cons]
          simp [opens, outside]

theorem opensArguments_of_isWordCharacter {character : Char}
    (member : isWordCharacter character = true) : opensArguments character = false :=
  opensArguments_of_isArgumentCharacter (by simp [isArgumentCharacter, member])

/-- Giving characters of the word back does not help either. -/
theorem findSome?_word (text : List Char) :
    ((Pattern.many (.one isWordCharacter)).rests text).findSome?
        (behindItems? (argumentItem true)) =
      behindItems? (argumentItem true) (text.dropWhile isWordCharacter) := by
  induction text with
  | nil => exact Pattern.findSome?_many_one_nil _ _
  | cons character text ih =>
      rw [Pattern.findSome?_many_one_cons, ih]
      cases member : isWordCharacter character with
      | false => simp [member]
      | true =>
          rw [behindItems?_of_not_opens _ _ (opensArguments_of_isWordCharacter member)]
          simp [member]

/-- An empty payload is an empty list of arguments as well. -/
theorem behindItems?_or_close? (item : Pattern) (text : List Char) :
    (behindItems? item text).or (close? (· == bell) text) = behindItems? item text := by
  cases text with
  | nil => rw [behindItems?_nil]; rfl
  | cons character text =>
      rw [behindItems?_cons, Option.or_assoc, close?, Option.or_self]

theorem bellTail_eq :
    bellTail = .seq (.optional (.either (.many (.seq (.one (· == ';')) (argumentItem false)))
      (.seq (.atLeastOne (.one isWordCharacter)) (.many (.seq (.one (· == ';')) (argumentItem true))))))
      (.one (· == bell)) := by
  simp only [bellTail, behindSemicolons, CharacterClass.one, holds_semicolon, holds_argument,
    holds_word, holds_closingBell]
  rfl

/-- A payload that starts with a word. -/
theorem findSome?_wordFirst (text : List Char) :
    ((Pattern.seq (.atLeastOne (.one isWordCharacter))
        (.many (.seq (.one (· == ';')) (argumentItem true)))).rests text).findSome?
          (close? (· == bell)) =
      if text.head?.any isWordCharacter then
        behindItems? (argumentItem true) (text.dropWhile isWordCharacter)
      else none := by
  rw [Pattern.findSome?_seq, Pattern.atLeastOne, Pattern.findSome?_seq]
  cases text with
  | nil => rfl
  | cons character text =>
      rw [Pattern.findSome?_one_cons]
      cases member : isWordCharacter character with
      | false => simp [member]
      | true =>
          rw [if_pos rfl, if_pos (by simpa using member),
            List.dropWhile_cons_of_pos (by simpa using member)]
          exact findSome?_word text

/-- **A bell tail is read as the pattern prefers.** -/
theorem preferred?_bellTail (text : List Char) :
    bellTail.preferred? text = afterBellTail? text := by
  have close : (fun rest => ((Pattern.one (· == bell)).rests rest).findSome? some) =
      close? (· == bell) := funext fun rest => findSome?_one _ rest
  rw [Pattern.preferred?_eq, bellTail_eq, Pattern.findSome?_seq, close, Pattern.findSome?_optional,
    Pattern.findSome?_either, findSome?_wordFirst]
  change ((behindItems? (argumentItem false) text).or _).or _ = _
  rw [afterBellTail?]
  cases text with
  | nil => simp [behindItems?_nil, close?]
  | cons character text =>
      cases member : isWordCharacter character with
      | true =>
          have plain := opensArguments_of_isWordCharacter member
          have noBell : (character == bell) = false := (Bool.or_eq_false_iff.mp plain).1
          rw [behindItems?_of_not_opens _ _ plain, behindItems?_eq]
          simp [member, close?, noBell]
      | false =>
          have alone := behindItems?_or_close? (argumentItem false) (character :: text)
          rw [behindItems?_eq] at alone ⊢
          simp only [List.head?_cons, Option.any_some, member, Bool.false_eq_true, if_false,
            Option.or_none, List.takeWhile_cons, List.dropWhile_cons] at alone ⊢
          exact alone

/-! ## Numeric tails -/

/-- What is left behind more numbers, each behind a semicolon, and a final
character. -/
def behindNumbers? (text : List Char) : Option (List Char) :=
  ((Pattern.many (.seq (.one (· == ';')) (.upTo 4 (.one isDecimalDigit)))).rests text).findSome?
    (close? isFinalCharacter)

/-- What is left behind at most so many digits, more numbers and a final character. -/
def behindDigits? (room : Nat) (text : List Char) : Option (List Char) :=
  ((Pattern.upTo room (.one isDecimalDigit)).rests text).findSome? behindNumbers?

theorem behindNumbers?_nil : behindNumbers? [] = none :=
  Pattern.findSome?_many_seq_one_nil _ _ _

theorem behindNumbers?_cons (character : Char) (text : List Char) :
    behindNumbers? (character :: text) =
      (if character == ';' then behindDigits? 4 text else none).or
        (if isFinalCharacter character then some text else none) :=
  Pattern.findSome?_many_seq_one_cons _ _ _ _ _

theorem behindDigits?_zero (text : List Char) : behindDigits? 0 text = behindNumbers? text :=
  List.findSome?_singleton

theorem behindDigits?_succ_nil (room : Nat) : behindDigits? (room + 1) [] = none := by
  refine (Pattern.findSome?_optional _ _ _).trans ?_
  rw [Pattern.findSome?_seq, behindNumbers?_nil]
  rfl

theorem behindDigits?_succ_cons (room : Nat) (character : Char) (text : List Char) :
    behindDigits? (room + 1) (character :: text) =
      (if isDecimalDigit character then behindDigits? room text else none).or
        (behindNumbers? (character :: text)) := by
  refine (Pattern.findSome?_optional _ _ _).trans ?_
  rw [Pattern.findSome?_seq, Pattern.findSome?_one_cons]
  rfl

theorem isFinalCharacter_of_isDecimalDigit {character : Char}
    (member : isDecimalDigit character = true) : isFinalCharacter character = true := by
  simp [isFinalCharacter, member]

theorem ne_semicolon_of_isDecimalDigit {character : Char}
    (member : isDecimalDigit character = true) : (character == ';') = false := by
  rw [beq_eq_false_iff_ne]
  rintro rfl
  exact absurd member (by decide)

/-- The first of a parameter list is given back last. -/
theorem afterClosing?_cons (character : Char) (taken left : List Char) :
    afterClosing? (character :: taken) left =
      (afterClosing? taken left).or
        (if isDecimalDigit character then some (taken ++ left) else none) := by
  have given (left : List Char) : afterLastDigit? left (character :: taken) =
      (afterLastDigit? left taken).or
        (if isDecimalDigit character then some (taken ++ left) else none) := by
    rw [afterLastDigit?]
    cases afterLastDigit? left taken with
    | none => rfl
    | some rest => rfl
  cases left with
  | nil => exact given []
  | cons next left =>
      rw [afterClosing?, afterClosing?, given]
      split
      · rfl
      · rfl

/-- **A parameter list is given back to its last digit**, which is then the final
character. -/
theorem behindDigits?_eq (room : Nat) (text : List Char) :
    behindDigits? room text =
      afterClosing? (parameters room text).1 (parameters room text).2 := by
  induction text generalizing room with
  | nil =>
      cases room with
      | zero => exact (behindDigits?_zero []).trans behindNumbers?_nil
      | succ room => exact behindDigits?_succ_nil room
  | cons character text ih =>
      cases digit : isDecimalDigit character with
      | true =>
          have final := isFinalCharacter_of_isDecimalDigit digit
          have different := ne_semicolon_of_isDecimalDigit digit
          cases room with
          | zero => simp [behindDigits?_zero, behindNumbers?_cons, parameters, afterClosing?, digit,
              final, different]
          | succ room =>
              simp [behindDigits?_succ_cons, behindNumbers?_cons, parameters, afterClosing?_cons,
                digit, final, different, ih, parameters_append]
      | false =>
          have noDigit : behindDigits? room (character :: text) =
              behindNumbers? (character :: text) := by
            cases room with
            | zero => exact behindDigits?_zero _
            | succ room => simp [behindDigits?_succ_cons, digit]
          rw [noDigit, behindNumbers?_cons, ih]
          by_cases semicolon : character = ';'
          · subst semicolon
            have notFinal : isFinalCharacter ';' = false := by decide
            simp [parameters, afterClosing?_cons, digit, notFinal]
          · simp [parameters, afterClosing?, afterLastDigit?, digit, semicolon]

theorem numericTail_eq :
    numericTail = .seq (.optional (.seq (.seq (.one isDecimalDigit) (.upTo 3 (.one isDecimalDigit)))
      (.many (.seq (.one (· == ';')) (.upTo 4 (.one isDecimalDigit)))))) (.one isFinalCharacter) := by
  simp only [numericTail, behindSemicolons, CharacterClass.one, holds_semicolon, holds_digit,
    holds_final]

/-- **A numeric tail is read as the pattern prefers.** -/
theorem preferred?_numericTail (text : List Char) :
    numericTail.preferred? text = afterNumericTail? text := by
  have close : (fun rest => ((Pattern.one isFinalCharacter).rests rest).findSome? some) =
      close? isFinalCharacter := funext fun rest => findSome?_one _ rest
  rw [Pattern.preferred?_eq, numericTail_eq, Pattern.findSome?_seq, close,
    Pattern.findSome?_optional, Pattern.findSome?_seq, Pattern.findSome?_seq]
  cases text with
  | nil => rfl
  | cons character text =>
      rw [Pattern.findSome?_one_cons, afterNumericTail?_cons, ← behindDigits?_eq]
      change (if isDecimalDigit character then behindDigits? 3 text else none).or _ = _
      cases digit : isDecimalDigit character with
      | false => rfl
      | true =>
          rw [if_pos rfl, if_pos rfl, behindDigits?_succ_cons, behindNumbers?_cons,
            ne_semicolon_of_isDecimalDigit digit, digit]
          rfl

/-! ## Sequences -/

theorem findSome?_introducers (text : List Char) :
    ((Pattern.many (.one isIntroducer)).rests text).findSome? afterTail? = afterStart? text := by
  induction text with
  | nil => exact Pattern.findSome?_many_one_nil _ _
  | cons character text ih =>
      rw [Pattern.findSome?_many_one_cons, ih, afterStart?]
      cases isIntroducer character with
      | false => exact Option.none_or
      | true => rfl

/-- **A sequence is read as the pattern prefers.** -/
theorem preferred?_sequence (character : Char) (text : List Char) :
    sequence.preferred? (character :: text) =
      if startsEscape character then afterStart? text else none := by
  have tails : (fun rest => ((Pattern.either bellTail numericTail).rests rest).findSome? some) =
      afterTail? := by
    funext rest
    rw [Pattern.findSome?_either, ← Pattern.preferred?_eq, ← Pattern.preferred?_eq,
      preferred?_bellTail, preferred?_numericTail, afterTail?]
  have introduced :
      ((Pattern.seq (.many (.one isIntroducer)) (.either bellTail numericTail)).rests
        text).findSome? some = afterStart? text := by
    rw [Pattern.findSome?_seq, tails, findSome?_introducers]
  rw [Pattern.preferred?_eq, sequence, Pattern.findSome?_seq, CharacterClass.one,
    CharacterClass.one, holds_start, holds_introducer, Pattern.findSome?_one_cons, introduced]

theorem preferred?_sequence_nil : sequence.preferred? [] = none := rfl

/-- What a scan keeps is the text without its escape sequences. -/
theorem exists_scan (text : List Char) :
    ∃ pieces last, sequence.Scan text pieces last ∧
      Pattern.kept pieces last = stripEscapes text := by
  fun_induction stripEscapes text with
  | case1 =>
      refine ⟨[], [], .done ?_, rfl⟩
      intro passed left cut
      obtain ⟨rfl, rfl⟩ := List.append_eq_nil_iff.mp cut.symm
      rw [Pattern.not_opens_iff, preferred?_sequence_nil]
  | case2 character text starts after found ih =>
      obtain ⟨pieces, last, scan, kept⟩ := ih
      have preferred : sequence.preferred? (character :: text) = some after := by
        rw [preferred?_sequence, if_pos starts, found]
      obtain ⟨removed, whole⟩ := scan.of_preferred? preferred
      exact ⟨_, _, whole, kept⟩
  | case3 character text starts missing ih =>
      obtain ⟨pieces, last, scan, kept⟩ := ih
      have absent : ¬ sequence.Opens (character :: text) := by
        rw [Pattern.not_opens_iff, preferred?_sequence, if_pos starts, missing]
      obtain ⟨longer, longerLast, whole, keeps⟩ := scan.exists_cons absent
      exact ⟨longer, longerLast, whole, by rw [keeps, kept]⟩
  | case4 character text plain ih =>
      obtain ⟨pieces, last, scan, kept⟩ := ih
      have absent : ¬ sequence.Opens (character :: text) := by
        rw [Pattern.not_opens_iff, preferred?_sequence, if_neg plain]
      obtain ⟨longer, longerLast, whole, keeps⟩ := scan.exists_cons absent
      exact ⟨longer, longerLast, whole, by rw [keeps, kept]⟩

/-- **Exactly the matches of a scan are removed.** Every text is cut in one way into
matches of the pattern, each the first one behind the match before it and the
preferred reading at its place, and the pieces between them. These pieces are what
is left. -/
theorem strip_scans (text : String) :
    ∃ pieces last, sequence.Scan text.toList pieces last ∧
      (∀ others otherLast, sequence.Scan text.toList others otherLast →
        others = pieces ∧ otherLast = last) ∧
      text.toList = (pieces.flatMap fun piece => piece.1 ++ piece.2) ++ last ∧
      (strip text).toList = pieces.flatMap Prod.fst ++ last := by
  obtain ⟨pieces, last, scan, kept⟩ := exists_scan text.toList
  refine ⟨pieces, last, scan, ?_, scan.whole, ?_⟩
  · intro others otherLast other
    exact other.unique scan rfl
  · rw [strip, String.toList_ofList, ← kept]
    rfl

/-- A list that no final character follows gives its last digit back to be one. -/
example : strip "\x1b[1;23!" = "!" := by cbv

end EscapePattern

end DiagnosticReport.Text
