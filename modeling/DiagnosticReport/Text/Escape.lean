import DiagnosticReport.Text.DecimalDigit

/-!
# Terminal escape sequences

An escape sequence starts with U+001B or U+009B, goes on with any number of
introducer characters (brackets, parentheses, `#`, `;`, `?`), and ends in one
of two tails.

* A *bell tail* is a payload closed by U+0007.  The payload is either a list of
  nonempty arguments, each behind a semicolon, or a word of ASCII letters and
  digits followed by such a list in which arguments may be empty.  It may also
  be empty.
* A *numeric tail* is an optional list of numbers, the first of one to four
  digits, each later one of at most four behind a semicolon, closed by a final
  character.

Where several readings are possible the earliest of these choices wins: as many
introducers as possible, the bell tail before the numeric one, as many
parameters as possible.  A digit can be both a parameter and a final character,
so a parameter list with no final character behind it gives back everything
from its last digit on, which then is the final character.

`stripEscapes` removes every sequence from a text, from left to right.
-/

set_option autoImplicit false

namespace DiagnosticReport.Text

/-! ## The character classes -/

/-- The two characters that start a sequence. -/
def startsEscape (character : Char) : Bool :=
  character == '\x1b' || character == '\u009b'

/-- The characters that may follow the start in any number. -/
def isIntroducer (character : Char) : Bool :=
  character == '[' || character == ']' || character == '(' || character == ')' ||
    character == '#' || character == ';' || character == '?'

/-- ASCII letters, and the digits of every script. -/
def isWordCharacter (character : Char) : Bool :=
  character.isAlpha || isDecimalDigit character

/-- The characters that an argument of a bell tail may hold. -/
def isArgumentCharacter (character : Char) : Bool :=
  isWordCharacter character || character == '-' || character == '/' || character == '#' ||
    character == '&' || character == '.' || character == ':' || character == '=' ||
    character == '?' || character == '%' || character == '@' || character == '~' ||
    character == '_'

/-- The characters that close a numeric tail. -/
def isFinalCharacter (character : Char) : Bool :=
  isDecimalDigit character || ('A' ≤ character && character ≤ 'P') ||
    ('R' ≤ character && character ≤ 'T') || character == 'Z' || character == 'c' ||
    ('f' ≤ character && character ≤ 'n') || character == 't' || character == 'q' ||
    character == 'r' || character == 'y' || character == '=' || character == '>' ||
    character == '<' || character == '~'

/-- The character that closes a bell tail. -/
def bell : Char := '\x07'

/-! ## Bell tails -/

/-- Whether `character`, with `rest` behind it, may stand in a list of
arguments: a semicolon needs an argument behind it unless arguments may be
empty. -/
def continuesArguments (mayBeEmpty : Bool) (character : Char) (rest : List Char) : Bool :=
  if character == ';' then mayBeEmpty || rest.head?.any isArgumentCharacter
  else isArgumentCharacter character

/-- What follows a list of arguments closed by a bell. -/
def afterArguments? (mayBeEmpty : Bool) : List Char → Option (List Char)
  | [] => none
  | character :: rest =>
      if character == bell then some rest
      else if continuesArguments mayBeEmpty character rest then afterArguments? mayBeEmpty rest
      else none

/-- The characters that an argument list can start with, its closing bell
included. -/
def opensArguments (character : Char) : Bool :=
  character == bell || character == ';'

/-- What follows a bell tail at the start of a text. -/
def afterBellTail? (text : List Char) : Option (List Char) :=
  let word := text.takeWhile isWordCharacter
  let rest := text.dropWhile isWordCharacter
  if rest.head?.any opensArguments then afterArguments? (!word.isEmpty) rest else none

/-! ## Numeric tails -/

/-- The longest parameter list at the start of a text, and what follows it.
`room` is how many more digits the current number may have. -/
def parameters (room : Nat) : List Char → List Char × List Char
  | [] => ([], [])
  | character :: rest =>
      if isDecimalDigit character then
        match room with
        | 0 => ([], character :: rest)
        | room + 1 =>
            let (taken, left) := parameters room rest
            (character :: taken, left)
      else if character == ';' then
        let (taken, left) := parameters 4 rest
        (character :: taken, left)
      else ([], character :: rest)

/-- What follows the last digit of `taken`, when `left` follows `taken`. -/
def afterLastDigit? (left : List Char) : List Char → Option (List Char)
  | [] => none
  | character :: taken =>
      match afterLastDigit? left taken with
      | some rest => some rest
      | none => if isDecimalDigit character then some (taken ++ left) else none

/-- What follows a numeric tail at the start of a text. -/
def afterNumericTail? (text : List Char) : Option (List Char) :=
  let (taken, left) :=
    match text with
    | [] => ([], [])
    | character :: _ => if isDecimalDigit character then parameters 4 text else ([], text)
  match left with
  | [] => afterLastDigit? left taken
  | next :: rest =>
      if isFinalCharacter next then some rest else afterLastDigit? left taken

/-! ## Whole sequences -/

/-- What follows a tail of either kind. -/
def afterTail? (text : List Char) : Option (List Char) :=
  (afterBellTail? text).or (afterNumericTail? text)

/-- What follows a sequence whose start has been read. -/
def afterStart? : List Char → Option (List Char)
  | [] => afterTail? []
  | character :: rest =>
      if isIntroducer character then (afterStart? rest).or (afterTail? (character :: rest))
      else afterTail? (character :: rest)

/-! ## What follows a sequence is a suffix of the text -/

theorem afterArguments?_suffix (mayBeEmpty : Bool) {text rest : List Char}
    (found : afterArguments? mayBeEmpty text = some rest) : rest <:+ text := by
  induction text with
  | nil => simp [afterArguments?] at found
  | cons character text ih =>
      have step : rest = text ∨ afterArguments? mayBeEmpty text = some rest := by
        grind [afterArguments?]
      rcases step with rfl | later
      · exact List.suffix_cons character rest
      · exact (ih later).trans (List.suffix_cons character text)

theorem afterBellTail?_suffix {text rest : List Char}
    (found : afterBellTail? text = some rest) : rest <:+ text := by
  simp only [afterBellTail?] at found
  split at found
  · exact (afterArguments?_suffix _ found).trans (List.dropWhile_suffix _)
  · contradiction

theorem parameters_append (room : Nat) (text : List Char) :
    (parameters room text).1 ++ (parameters room text).2 = text := by
  induction text generalizing room with
  | nil => rfl
  | cons character text ih =>
      by_cases digit : isDecimalDigit character = true
      · cases room with
        | zero => simp [parameters, digit]
        | succ room => simpa [parameters, digit] using ih room
      · by_cases semicolon : (character == ';') = true
        · simpa only [parameters, digit, semicolon, Bool.false_eq_true, if_false, if_true,
            List.cons_append, List.cons.injEq, true_and] using ih 4
        · simp [parameters, digit, semicolon]

theorem afterLastDigit?_suffix {left taken rest : List Char}
    (found : afterLastDigit? left taken = some rest) : rest <:+ taken ++ left := by
  induction taken with
  | nil => simp [afterLastDigit?] at found
  | cons character taken ih =>
      have step : afterLastDigit? left taken = some rest ∨ rest = taken ++ left := by
        grind [afterLastDigit?]
      rcases step with later | rfl
      · exact (ih later).trans (List.suffix_cons character (taken ++ left))
      · exact List.suffix_cons character (taken ++ left)

theorem afterNumericTail?_suffix {text rest : List Char}
    (found : afterNumericTail? text = some rest) : rest <:+ text := by
  have whole : ∃ taken left, taken ++ left = text ∧
      (rest = left.tail ∨ afterLastDigit? left taken = some rest) := by
    cases text with
    | nil => exact ⟨[], [], rfl, by grind [afterNumericTail?]⟩
    | cons character text =>
        by_cases digit : isDecimalDigit character = true
        · exact ⟨_, _, parameters_append 4 (character :: text), by grind [afterNumericTail?]⟩
        · exact ⟨[], character :: text, rfl, by grind [afterNumericTail?]⟩
  obtain ⟨taken, left, rfl, rfl | given⟩ := whole
  · exact (List.tail_suffix left).trans (List.suffix_append taken left)
  · exact afterLastDigit?_suffix given

theorem afterTail?_suffix {text rest : List Char} (found : afterTail? text = some rest) :
    rest <:+ text := by
  rcases Option.or_eq_some_iff.mp found with bellTail | ⟨_, numericTail⟩
  · exact afterBellTail?_suffix bellTail
  · exact afterNumericTail?_suffix numericTail

theorem afterStart?_suffix {text rest : List Char} (found : afterStart? text = some rest) :
    rest <:+ text := by
  induction text with
  | nil => exact afterTail?_suffix found
  | cons character text ih =>
      have step : afterStart? text = some rest ∨ afterTail? (character :: text) = some rest := by
        rw [afterStart?] at found
        split at found
        · exact (Option.or_eq_some_iff.mp found).imp_right And.right
        · exact Or.inr found
      rcases step with later | now
      · exact (ih later).trans (List.suffix_cons character text)
      · exact afterTail?_suffix now

/-! ## Removing the sequences of a text -/

/-- A text without its escape sequences. -/
def stripEscapes : List Char → List Char
  | [] => []
  | character :: rest =>
      if startsEscape character then
        match _equation : afterStart? rest with
        | some after => stripEscapes after
        | none => character :: stripEscapes rest
      else character :: stripEscapes rest
termination_by text => text.length
decreasing_by
  · have shorter := (afterStart?_suffix _equation).length_le
    simp only [List.length_cons]
    omega
  · simp
  · simp

/-- A string without its escape sequences. -/
def strip (text : String) : String :=
  String.ofList (stripEscapes text.toList)

end DiagnosticReport.Text
