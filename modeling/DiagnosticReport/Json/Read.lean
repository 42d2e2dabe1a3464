import DiagnosticReport.Json.Value

/-!
# Reading JSON texts

`Json.ofText?` reads a whole text and accepts exactly the JSON grammar: the four
blanks, no trailing comma, no leading zero, no raw control character in a
string.  What the text denotes is kept as `Json` keeps it, so a text whose only
fault is an unpaired surrogate, an enormous number or deep nesting is read, and
it is for the reader of the value to refuse it where it matters.

The readers return what they read together with the rest of the text.  Those
that call one another take a number of steps; twice the length of the text is
always enough, because between two steps that consume nothing there is one that
does.
-/

set_option autoImplicit false

namespace DiagnosticReport.Json

/-! ## Blanks -/

/-- The characters that may stand between the tokens. -/
def isBlank (character : Char) : Bool :=
  character == ' ' || character == '\t' || character == '\n' || character == '\r'

/-- A text from its first character that is no blank. -/
def skipBlanks (text : List Char) : List Char := text.dropWhile isBlank

/-! ## Numbers -/

/-- The longest run of ASCII digits at the start of a text, and the rest. -/
def spanDigits (text : List Char) : List Char × List Char :=
  text.span Char.isDigit

/-- The sign of a number, and the rest. -/
def readSign : List Char → Bool × List Char
  | '-' :: rest => (true, rest)
  | text => (false, text)

/-- The digits before the point: a zero on its own, or digits that do not start
with a zero. -/
def readWhole? (text : List Char) : Option (List Char × List Char) :=
  match spanDigits text with
  | ([], _) => none
  | (['0'], rest) => some (['0'], rest)
  | ('0' :: _, _) => none
  | (digits, rest) => some (digits, rest)

/-- The digits behind a point, if there is one. -/
def readFraction? : List Char → Option (Option (List Char) × List Char)
  | '.' :: rest =>
      match spanDigits rest with
      | ([], _) => none
      | (digits, rest) => some (some digits, rest)
  | text => some (none, text)

/-- The sign and the digits of an exponent whose letter has been read. -/
def readExponentValue? (text : List Char) : Option (Int × List Char) :=
  let (negative, unsigned) :=
    match text with
    | '+' :: rest => (false, rest)
    | '-' :: rest => (true, rest)
    | _ => (false, text)
  match spanDigits unsigned with
  | ([], _) => none
  | (digits, rest) =>
      let size : Int := Decimal.ofDigits digits
      some (if negative then -size else size, rest)

/-- The exponent, if there is one. -/
def readExponent? : List Char → Option (Option Int × List Char)
  | 'e' :: rest => (readExponentValue? rest).map fun (value, rest) => (some value, rest)
  | 'E' :: rest => (readExponentValue? rest).map fun (value, rest) => (some value, rest)
  | text => some (none, text)

/-- The number written with these parts.  A whole number has neither a fraction
nor an exponent and is not negative zero. -/
def Number.ofParts (negative : Bool) (whole : List Char) (fraction : Option (List Char))
    (exponent : Option Int) : Number :=
  match fraction, exponent with
  | none, none =>
      let size : Int := Decimal.ofDigits whole
      if negative then
        if size = 0 then .inexact true else .integer (-size)
      else .integer size
  | _, _ => .inexact (Decimal.isWithinDoubles whole (fraction.getD []) (exponent.getD 0))

/-- A number at the start of a text. -/
def readNumber? (text : List Char) : Option (Number × List Char) := do
  let (negative, rest) := readSign text
  let (whole, rest) ← readWhole? rest
  let (fraction, rest) ← readFraction? rest
  let (exponent, rest) ← readExponent? rest
  return (Number.ofParts negative whole fraction exponent, rest)

/-! ## Strings -/

/-- One unit of a string: a character, or the 16-bit code of a `\u` escape. -/
inductive StringUnit where
  /-- A character that stands for itself or is written with a short escape. -/
  | literal (character : Char)
  /-- The code of an escape with four hexadecimal digits. -/
  | code (value : Nat)
  deriving DecidableEq, Repr

/-- The value of a hexadecimal digit. -/
def hexValue? (digit : Char) : Option Nat :=
  if digit.isDigit then some (digit.toNat - '0'.toNat)
  else if 'a' ≤ digit && digit ≤ 'f' then some (digit.toNat - 'a'.toNat + 10)
  else if 'A' ≤ digit && digit ≤ 'F' then some (digit.toNat - 'A'.toNat + 10)
  else none

/-- The value of four hexadecimal digits. -/
def hexCode? (first second third fourth : Char) : Option Nat := do
  let first ← hexValue? first
  let second ← hexValue? second
  let third ← hexValue? third
  let fourth ← hexValue? fourth
  return ((first * 16 + second) * 16 + third) * 16 + fourth

/-- The character of a short escape, given the letter behind the backslash. -/
def shortEscape? : Char → Option Char
  | '"' => some '"'
  | '\\' => some '\\'
  | '/' => some '/'
  | 'b' => some '\x08'
  | 'f' => some '\x0c'
  | 'n' => some '\n'
  | 'r' => some '\r'
  | 't' => some '\t'
  | _ => none

/-- The units of a string whose opening quote has been read, up to its closing
quote, and the rest behind it. -/
def readUnits? : List Char → Option (List StringUnit × List Char)
  | [] => none
  | '"' :: rest => some ([], rest)
  | '\\' :: 'u' :: first :: second :: third :: fourth :: rest => do
      let code ← hexCode? first second third fourth
      let (units, rest) ← readUnits? rest
      return (.code code :: units, rest)
  | '\\' :: letter :: rest => do
      let character ← shortEscape? letter
      let (units, rest) ← readUnits? rest
      return (.literal character :: units, rest)
  | character :: rest =>
      if character.toNat < 0x20 || character == '\\' then none
      else do
        let (units, rest) ← readUnits? rest
        return (.literal character :: units, rest)

/-- The first half of a surrogate pair. -/
def isHighSurrogate (code : Nat) : Bool := 0xD800 ≤ code && code < 0xDC00

/-- The second half of a surrogate pair. -/
def isLowSurrogate (code : Nat) : Bool := 0xDC00 ≤ code && code < 0xE000

/-- The characters that the units denote; none if a surrogate has no partner. -/
def charactersOfUnits? : List StringUnit → Option (List Char)
  | [] => some []
  | .literal character :: units => (charactersOfUnits? units).map (character :: ·)
  | .code high :: .code low :: units =>
      if isHighSurrogate high && isLowSurrogate low then
        (charactersOfUnits? units).map
          (Char.ofNat (0x10000 + (high - 0xD800) * 0x400 + (low - 0xDC00)) :: ·)
      else if isHighSurrogate high || isLowSurrogate high then none
      else (charactersOfUnits? (.code low :: units)).map (Char.ofNat high :: ·)
  | .code code :: units =>
      if isHighSurrogate code || isLowSurrogate code then none
      else (charactersOfUnits? units).map (Char.ofNat code :: ·)

/-- The text of a string whose opening quote has been read. -/
def readString? (text : List Char) : Option (Option String × List Char) := do
  let (units, rest) ← readUnits? text
  return ((charactersOfUnits? units).map String.ofList, rest)

/-! ## Values -/

/-- A fixed word at the start of a text, and the rest behind it. -/
def dropWord? (word text : List Char) : Option (List Char) :=
  if word.isPrefixOf text then some (text.drop word.length) else none

mutual

/-- A value at the start of a text, after blanks. -/
def readValue? : Nat → List Char → Option (Json × List Char)
  | 0, _ => none
  | steps + 1, text =>
      match skipBlanks text with
      | '{' :: rest =>
          match skipBlanks rest with
          | '}' :: rest => some (.object [], rest)
          | rest => (readMembers? steps rest).map fun (members, rest) => (.object members, rest)
      | '[' :: rest =>
          match skipBlanks rest with
          | ']' :: rest => some (.array [], rest)
          | rest => (readItems? steps rest).map fun (items, rest) => (.array items, rest)
      | '"' :: rest =>
          (readString? rest).map fun (value, rest) => (value.elim .unpaired .string, rest)
      | 'n' :: rest => (dropWord? "ull".toList rest).map fun rest => (.null, rest)
      | 't' :: rest => (dropWord? "rue".toList rest).map fun rest => (.bool true, rest)
      | 'f' :: rest => (dropWord? "alse".toList rest).map fun rest => (.bool false, rest)
      | text => (readNumber? text).map fun (value, rest) => (.number value, rest)

/-- The items of a list that is not empty, up to its closing bracket. -/
def readItems? : Nat → List Char → Option (List Json × List Char)
  | 0, _ => none
  | steps + 1, text => do
      let (item, rest) ← readValue? steps text
      match skipBlanks rest with
      | ',' :: rest =>
          let (items, rest) ← readItems? steps rest
          return (item :: items, rest)
      | ']' :: rest => return ([item], rest)
      | _ => none

/-- The members of an object that is not empty, up to its closing brace. -/
def readMembers? : Nat → List Char → Option (List (Option String × Json) × List Char)
  | 0, _ => none
  | steps + 1, text =>
      match skipBlanks text with
      | '"' :: rest => do
          let (name, rest) ← readString? rest
          match skipBlanks rest with
          | ':' :: rest =>
              let (value, rest) ← readValue? steps rest
              match skipBlanks rest with
              | ',' :: rest =>
                  let (members, rest) ← readMembers? steps rest
                  return ((name, value) :: members, rest)
              | '}' :: rest => return ([(name, value)], rest)
              | _ => none
          | _ => none
      | _ => none

end

/-- The value that a whole text denotes. -/
def ofText? (text : String) : Option Json :=
  match readValue? (2 * text.toList.length + 2) text.toList with
  | some (value, rest) => if (skipBlanks rest).isEmpty then some value else none
  | none => none

end DiagnosticReport.Json
