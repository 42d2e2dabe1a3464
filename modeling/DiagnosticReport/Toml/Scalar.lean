import DiagnosticReport.Decimal

/-!
# Scalars of TOML

Readers for blanks, comments, strings, numbers and points in time.  Each takes a
text and returns what follows what it read, together with the value where the
value matters.

A line ends with a line feed or with a carriage return and a line feed.  A
string over several lines keeps the first form for both, drops a line end right
behind its opening quotes, and may hold one or two quotes anywhere, at its end
too.
-/

set_option autoImplicit false

namespace DiagnosticReport.Toml

/-! ## Blanks, comments and line ends -/

/-- A space or a tab. -/
def isSpace (character : Char) : Bool := character == ' ' || character == '\t'

/-- A text from its first character that is no space. -/
def skipSpaces (text : List Char) : List Char := text.dropWhile isSpace

/-- The characters that may stand in a comment and, the quotes apart, in a
string: tabs, and everything that is no control character. -/
def isPlain (character : Char) : Bool :=
  character == '\t' || (0x20 ≤ character.toNat && character != '\x7f')

/-- What follows a line end. -/
def dropLineEnd? : List Char → Option (List Char)
  | '\n' :: rest => some rest
  | '\r' :: '\n' :: rest => some rest
  | _ => none

/-- What follows a comment, if there is one. -/
def dropComment : List Char → List Char
  | '#' :: rest => rest.dropWhile isPlain
  | text => text

/-- What follows the rest of a line that holds nothing more than a comment. -/
def endLine? (text : List Char) : Option (List Char) :=
  match dropComment (skipSpaces text) with
  | [] => some []
  | rest => dropLineEnd? rest

/-- What follows blanks, line ends and whole comments.  None if a comment does
not end with a line, or a carriage return stands alone. -/
def skipLines? (comment : Bool) : List Char → Option (List Char)
  | [] => if comment then none else some []
  | '\n' :: rest => skipLines? false rest
  | '\r' :: '\n' :: rest => skipLines? false rest
  | character :: rest =>
      if character == '\r' then none
      else if comment then if isPlain character then skipLines? true rest else none
      else if isSpace character then skipLines? false rest
      else if character == '#' then skipLines? true rest
      else some (character :: rest)

/-! ## Strings -/

/-- The value of a hexadecimal digit. -/
def hexValue? (digit : Char) : Option Nat :=
  if digit.isDigit then some (digit.toNat - '0'.toNat)
  else if 'a' ≤ digit && digit ≤ 'f' then some (digit.toNat - 'a'.toNat + 10)
  else if 'A' ≤ digit && digit ≤ 'F' then some (digit.toNat - 'A'.toNat + 10)
  else none

/-- The character with the code that these hexadecimal digits give. -/
def charOfHex? (digits : List Char) : Option Char := do
  let code ← digits.foldlM (fun code digit => (hexValue? digit).map (code * 16 + ·)) 0
  if code < 0xD800 || (0xDFFF < code && code < 0x110000) then some (Char.ofNat code) else none

/-- The character of a short escape, given the letter behind the backslash. -/
def shortEscape? : Char → Option Char
  | 'b' => some '\x08'
  | 't' => some '\t'
  | 'n' => some '\n'
  | 'f' => some '\x0c'
  | 'r' => some '\r'
  | '"' => some '"'
  | '\\' => some '\\'
  | _ => none

/-- A basic string whose opening quote has been read. -/
def readBasic? : List Char → Option (List Char × List Char)
  | [] => none
  | '"' :: rest => some ([], rest)
  | '\\' :: 'u' :: first :: second :: third :: fourth :: rest => do
      let character ← charOfHex? [first, second, third, fourth]
      let (value, rest) ← readBasic? rest
      return (character :: value, rest)
  | '\\' :: 'U' :: first :: second :: third :: fourth :: fifth :: sixth :: seventh :: eighth ::
      rest => do
      let character ← charOfHex?
        [first, second, third, fourth, fifth, sixth, seventh, eighth]
      let (value, rest) ← readBasic? rest
      return (character :: value, rest)
  | '\\' :: letter :: rest => do
      let character ← shortEscape? letter
      let (value, rest) ← readBasic? rest
      return (character :: value, rest)
  | character :: rest =>
      if isPlain character && character != '\\' then
        (readBasic? rest).map fun (value, rest) => (character :: value, rest)
      else none

/-- A literal string whose opening quote has been read. -/
def readLiteral? : List Char → Option (List Char × List Char)
  | [] => none
  | '\'' :: rest => some ([], rest)
  | character :: rest =>
      if isPlain character then
        (readLiteral? rest).map fun (value, rest) => (character :: value, rest)
      else none

/-- What follows closing quotes, and the quotes in front of them that belong to
the string. -/
def closeQuotes? (quote : Char) : List Char → Option (List Char × List Char)
  | first :: second :: third :: fourth :: fifth :: rest =>
      if first == quote && second == quote && third == quote then
        if fourth == quote && fifth == quote then some ([quote, quote], rest)
        else if fourth == quote then some ([quote], fifth :: rest)
        else some ([], fourth :: fifth :: rest)
      else none
  | [first, second, third, fourth] =>
      if first == quote && second == quote && third == quote then
        if fourth == quote then some ([quote], []) else some ([], [fourth])
      else none
  | [first, second, third] =>
      if first == quote && second == quote && third == quote then some ([], []) else none
  | _ => none

/-- A basic string over several lines, from behind its opening quotes.  Behind a
backslash at the end of a line everything up to the next character is skipped;
`skipping` tells that this is going on, `atEscape` that the end of the line is
still to come. -/
def readLongBasic? (skipping atEscape : Bool) : List Char → Option (List Char × List Char)
  | [] => none
  | '\n' :: rest =>
      if skipping then readLongBasic? true false rest
      else (readLongBasic? false false rest).map fun (value, rest) => ('\n' :: value, rest)
  | '\r' :: '\n' :: rest =>
      if skipping then readLongBasic? true false rest
      else (readLongBasic? false false rest).map fun (value, rest) => ('\n' :: value, rest)
  | '\\' :: 'u' :: first :: second :: third :: fourth :: rest =>
      if atEscape then none
      else do
        let character ← charOfHex? [first, second, third, fourth]
        let (value, rest) ← readLongBasic? false false rest
        return (character :: value, rest)
  | '\\' :: 'U' :: first :: second :: third :: fourth :: fifth :: sixth :: seventh :: eighth ::
      rest =>
      if atEscape then none
      else do
        let character ← charOfHex?
          [first, second, third, fourth, fifth, sixth, seventh, eighth]
        let (value, rest) ← readLongBasic? false false rest
        return (character :: value, rest)
  | '\\' :: letter :: rest =>
      if atEscape then none
      else
        match shortEscape? letter with
        | some character =>
            (readLongBasic? false false rest).map fun (value, rest) => (character :: value, rest)
        | none =>
            if isSpace letter || letter == '\n' || letter == '\r' then
              readLongBasic? true true (letter :: rest)
            else none
  | character :: rest =>
      if skipping && isSpace character then readLongBasic? true atEscape rest
      else if atEscape then none
      else if character == '"' then
        match closeQuotes? '"' (character :: rest) with
        | some closed => some closed
        | none => (readLongBasic? false false rest).map fun (value, rest) => ('"' :: value, rest)
      else if isPlain character && character != '\\' then
        (readLongBasic? false false rest).map fun (value, rest) => (character :: value, rest)
      else none

/-- A literal string over several lines, from behind its opening quotes. -/
def readLongLiteral? : List Char → Option (List Char × List Char)
  | [] => none
  | '\n' :: rest => (readLongLiteral? rest).map fun (value, rest) => ('\n' :: value, rest)
  | '\r' :: '\n' :: rest =>
      (readLongLiteral? rest).map fun (value, rest) => ('\n' :: value, rest)
  | character :: rest =>
      if character == '\'' then
        match closeQuotes? '\'' (character :: rest) with
        | some closed => some closed
        | none => (readLongLiteral? rest).map fun (value, rest) => ('\'' :: value, rest)
      else if isPlain character then
        (readLongLiteral? rest).map fun (value, rest) => (character :: value, rest)
      else none

/-- What follows a line end at the start of a text, or the whole text. -/
def skipLineEnd (text : List Char) : List Char := (dropLineEnd? text).getD text

/-- A string of any of the four forms. -/
def readString? (text : List Char) : Option (String × List Char) :=
  let characters :=
    match text with
    | '"' :: '"' :: '"' :: rest => readLongBasic? false false (skipLineEnd rest)
    | '"' :: rest => readBasic? rest
    | '\'' :: '\'' :: '\'' :: rest => readLongLiteral? (skipLineEnd rest)
    | '\'' :: rest => readLiteral? rest
    | _ => none
  characters.map fun (value, rest) => (String.ofList value, rest)

/-! ## Numbers -/

/-- Digits of a kind, with single underscores between them, and what follows.
None if an underscore has no digit behind it. -/
def moreDigits? (isDigit : Char → Bool) : List Char → Option (List Char × List Char)
  | [] => some ([], [])
  | '_' :: next :: rest =>
      if isDigit next then
        (moreDigits? isDigit rest).map fun (digits, rest) => (next :: digits, rest)
      else none
  | character :: rest =>
      if character == '_' then none
      else if isDigit character then
        (moreDigits? isDigit rest).map fun (digits, rest) => (character :: digits, rest)
      else some ([], character :: rest)

/-- At least one digit of a kind, and what follows the digits. -/
def readDigits? (isDigit : Char → Bool) : List Char → Option (List Char × List Char)
  | [] => none
  | first :: rest =>
      if isDigit first then
        (moreDigits? isDigit rest).map fun (digits, rest) => (first :: digits, rest)
      else none

/-- The sign of a number, and what follows it. -/
def readSign : List Char → Bool × List Char
  | '-' :: rest => (true, rest)
  | '+' :: rest => (false, rest)
  | text => (false, text)

/-- The digits of a decimal integer without its sign: a zero on its own, or
digits that do not start with one. -/
def readDecimalDigits? : List Char → Option (List Char × List Char)
  | '0' :: rest => some (['0'], rest)
  | text => readDigits? Char.isDigit text

/-- An exponent behind its letter. -/
def readExponent? (text : List Char) : Option (Int × List Char) := do
  let (negative, rest) := readSign text
  let (digits, rest) ← readDigits? Char.isDigit rest
  let size : Int := Decimal.ofDigits digits
  return (if negative then -size else size, rest)

/-- Whether a text starts with the letter of an exponent. -/
def startsExponent (text : List Char) : Bool := text.head?.any fun letter =>
  letter == 'e' || letter == 'E'

/-- What follows the words for infinity and for no number. -/
def dropSpecial? : List Char → Option (List Char)
  | 'i' :: 'n' :: 'f' :: rest => some rest
  | 'n' :: 'a' :: 'n' :: rest => some rest
  | _ => none

/-- What follows a float that is written with a fraction, an exponent or both.
The outer option tells whether there is one; the inner is empty if it is broken
or too great. -/
def dropFloat? (text : List Char) : Option (Option (List Char)) :=
  let (negative, unsigned) := readSign text
  match readDecimalDigits? unsigned with
  | none => none
  | some (whole, rest) =>
      let finish (fraction : List Char) (exponent : Int) (rest : List Char) :
          Option (List Char) :=
        if negative || Decimal.isFiniteDouble (Decimal.ofDigits (whole ++ fraction))
            (exponent - fraction.length) then some rest
        else none
      if startsExponent rest then
        some ((readExponent? rest.tail).bind fun (exponent, rest) => finish [] exponent rest)
      else
        match rest with
        | '.' :: rest =>
            some (do
              let (fraction, rest) ← readDigits? Char.isDigit rest
              if startsExponent rest then
                let (exponent, rest) ← readExponent? rest.tail
                finish fraction exponent rest
              else finish fraction 0 rest)
        | _ => none

/-- The greatest integer. -/
def greatestInteger : Nat := 0x7FFFFFFFFFFFFFFF

/-- What follows an integer in some base, without its mark. -/
def dropInBase? (base : Nat) (text : List Char) : Option (List Char) := do
  let isDigit (digit : Char) : Bool := (hexValue? digit).any (· < base)
  let (digits, rest) ← readDigits? isDigit text
  let value := digits.foldl (fun value digit => value * base + (hexValue? digit).getD 0) 0
  if value ≤ greatestInteger then some rest else none

/-- What follows a decimal integer. -/
def dropDecimal? (text : List Char) : Option (List Char) := do
  let (negative, unsigned) := readSign text
  let (digits, rest) ← readDecimalDigits? unsigned
  let greatest := if negative then greatestInteger + 1 else greatestInteger
  if Decimal.ofDigits digits ≤ greatest then some rest else none

/-- What follows an integer. -/
def dropInteger? : List Char → Option (List Char)
  | '0' :: 'x' :: rest => dropInBase? 16 rest
  | '0' :: 'o' :: rest => dropInBase? 8 rest
  | '0' :: 'b' :: rest => dropInBase? 2 rest
  | text => dropDecimal? text

/-- What follows a number. -/
def dropNumber? (text : List Char) : Option (List Char) :=
  match dropFloat? text with
  | some float => float
  | none => (dropSpecial? (readSign text).2).or (dropInteger? text)

/-! ## Points in time -/

/-- A number of two digits in a range, and what follows it. -/
def readPair? (least greatest : Nat) : List Char → Option (Nat × List Char)
  | first :: second :: rest =>
      if first.isDigit && second.isDigit then
        let value := Decimal.ofDigits [first, second]
        if least ≤ value && value ≤ greatest then some (value, rest) else none
      else none
  | _ => none

/-- What follows one character. -/
def dropMark? (mark : Char) : List Char → Option (List Char)
  | first :: rest => if first == mark then some rest else none
  | [] => none

/-- The days of a month. -/
def daysOfMonth (year month : Nat) : Nat :=
  if month = 2 then
    if year % 4 = 0 ∧ (year % 100 ≠ 0 ∨ year % 400 = 0) then 29 else 28
  else if month = 4 ∨ month = 6 ∨ month = 9 ∨ month = 11 then 30
  else 31

/-- What follows a date. -/
def dropDate? (text : List Char) : Option (List Char) := do
  let (century, rest) ← readPair? 0 99 text
  let (year, rest) ← readPair? 0 99 rest
  let rest ← dropMark? '-' rest
  let (month, rest) ← readPair? 1 12 rest
  let rest ← dropMark? '-' rest
  let (_, rest) ← readPair? 1 (daysOfMonth (century * 100 + year) month) rest
  return rest

/-- What follows a time of day. -/
def dropTime? (text : List Char) : Option (List Char) := do
  let (_, rest) ← readPair? 0 23 text
  let rest ← dropMark? ':' rest
  let (_, rest) ← readPair? 0 59 rest
  let rest ← dropMark? ':' rest
  let (_, rest) ← readPair? 0 60 rest
  match rest with
  | '.' :: digit :: rest =>
      if digit.isDigit then return rest.dropWhile Char.isDigit else return '.' :: digit :: rest
  | rest => return rest

/-- What follows an offset from universal time. -/
def dropOffset? : List Char → Option (List Char)
  | 'Z' :: rest => some rest
  | 'z' :: rest => some rest
  | sign :: rest =>
      if sign == '+' || sign == '-' then do
        let (_, rest) ← readPair? 0 23 rest
        let rest ← dropMark? ':' rest
        let (_, rest) ← readPair? 0 59 rest
        return rest
      else none
  | [] => none

/-- What follows the time of day behind a date, with its offset if it has one;
the whole text if there is no time. -/
def dropTimeOfDate (text : List Char) : List Char :=
  match text with
  | delimiter :: rest =>
      if delimiter == 'T' || delimiter == 't' || delimiter == ' ' then
        match dropTime? rest with
        | some rest => (dropOffset? rest).getD rest
        | none => text
      else text
  | [] => []

/-- What follows a date, a date with a time, or a time. -/
def dropMoment? (text : List Char) : Option (List Char) :=
  match dropDate? text with
  | some rest => some (dropTimeOfDate rest)
  | none => dropTime? text

end DiagnosticReport.Toml
