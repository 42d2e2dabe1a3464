/-!
# Writing TOML texts

Strings take the plainest of the forms that can hold them, in this order: a
basic string without escapes, a literal string, a basic string over several
lines without escapes, a literal one over several lines, and at last a basic
string with escapes, over several lines if the text has a line feed.

A list stands on its line if it has one item at most, and has one item a line
otherwise, each with a comma behind it.
-/

set_option autoImplicit false

namespace DiagnosticReport.Toml

/-! ## What a string holds -/

/-- A control character that only an escape can bring into a string. -/
def needsCode (character : Char) : Bool :=
  (character.toNat < 0x20 && character != '\t' && character != '\n') || character == '\x7f'

/-- The length of the longest run of a character, where `run` of them stand in
front of the text. -/
def longestRun (wanted : Char) (run : Nat) : List Char → Nat
  | [] => run
  | character :: rest =>
      if character == wanted then longestRun wanted (run + 1) rest
      else max run (longestRun wanted 0 rest)

/-- The forms of a string. -/
inductive StringForm where
  /-- In double quotes. -/
  | basic
  /-- In single quotes. -/
  | literal
  /-- In three double quotes. -/
  | longBasic
  /-- In three single quotes. -/
  | longLiteral
  deriving DecidableEq, Repr

/-- The form in which a text is written. -/
def formOf (text : List Char) : StringForm :=
  let codes := text.any needsCode
  let backslash := text.contains '\\'
  let newLine := text.contains '\n'
  let quotes := longestRun '"' 0 text
  let apostrophes := longestRun '\'' 0 text
  if !codes && !backslash && quotes == 0 && !newLine then .basic
  else if !codes && apostrophes == 0 && !newLine then .literal
  else if !codes && !backslash && quotes ≤ 2 then .longBasic
  else if !codes && apostrophes ≤ 2 then .longLiteral
  else if newLine then .longBasic
  else .basic

/-! ## Strings -/

/-- A capital hexadecimal digit. -/
def hexDigit (value : Nat) : Char :=
  if value < 10 then Char.ofNat ('0'.toNat + value) else Char.ofNat ('A'.toNat + (value - 10))

/-- A character in a basic string; quotes are left to the caller. -/
def escapeCharacter (long : Bool) (character : Char) : List Char :=
  if character == '\x08' then ['\\', 'b']
  else if character == '\t' then ['\\', 't']
  else if character == '\n' then if long then ['\n'] else ['\\', 'n']
  else if character == '\x0c' then ['\\', 'f']
  else if character == '\r' then ['\\', 'r']
  else if character == '\\' then ['\\', '\\']
  else if needsCode character then
    ['\\', 'u', '0', '0', hexDigit (character.toNat / 16), hexDigit (character.toNat % 16)]
  else [character]

/-- The characters of a basic string.  Up to `room` quotes in a row are written
plainly, and `run` of them stand in front of the text. -/
def escapeText (long : Bool) (room run : Nat) : List Char → List Char
  | [] => []
  | character :: rest =>
      if character == '"' then
        if run < room then '"' :: escapeText long room (run + 1) rest
        else '\\' :: '"' :: escapeText long room 0 rest
      else escapeCharacter long character ++ escapeText long room 0 rest

/-- A line feed in front of a text that has one. -/
def leadingLine (text : List Char) : List Char :=
  if text.contains '\n' then ['\n'] else []

/-- A text in one of the forms. -/
def writeForm (text : List Char) : StringForm → List Char
  | .basic => '"' :: (escapeText false 0 0 text ++ ['"'])
  | .literal => '\'' :: (text ++ ['\''])
  | .longBasic =>
      ['"', '"', '"'] ++ leadingLine text ++ escapeText true 2 0 text ++ ['"', '"', '"']
  | .longLiteral => ['\'', '\'', '\''] ++ leadingLine text ++ text ++ ['\'', '\'', '\'']

/-- A string. -/
def writeString (text : String) : List Char := writeForm text.toList (formOf text.toList)

/-! ## Lists and assignments -/

/-- The items of a list, one a line. -/
def writeLines : List String → List Char
  | [] => []
  | item :: items => "    ".toList ++ writeString item ++ [',', '\n'] ++ writeLines items

/-- A list of strings. -/
def writeStrings : List String → List Char
  | [] => ['[', ']']
  | [item] => '[' :: (writeString item ++ [']'])
  | items => ['[', '\n'] ++ writeLines items ++ [']']

/-- A truth value. -/
def writeBoolean (value : Bool) : List Char := (if value then "true" else "false").toList

/-- A line that assigns a value. -/
def writeAssignment (name : String) (value : List Char) : List Char :=
  name.toList ++ " = ".toList ++ value ++ ['\n']

/-- A line that opens a table. -/
def writeHeader (name : String) : List Char := '[' :: (name.toList ++ [']', '\n'])

end DiagnosticReport.Toml
