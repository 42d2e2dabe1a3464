import DiagnosticReport.Json.Value

/-!
# Writing JSON texts

Two layouts: the compact one without any blank, and the indented one with two
spaces a level and one item or member a line, where an empty container stays on
its line.  Strings are escaped alike in both: the quote, the backslash and the
control characters, and nothing else.
-/

set_option autoImplicit false

namespace DiagnosticReport.Json

/-- A small hexadecimal digit. -/
def hexDigit (value : Nat) : Char :=
  if value < 10 then Char.ofNat ('0'.toNat + value) else Char.ofNat ('a'.toNat + (value - 10))

/-- One character inside a string. -/
def escapeCharacter (character : Char) : List Char :=
  if character == '"' then ['\\', '"']
  else if character == '\\' then ['\\', '\\']
  else if character == '\x08' then ['\\', 'b']
  else if character == '\x0c' then ['\\', 'f']
  else if character == '\n' then ['\\', 'n']
  else if character == '\r' then ['\\', 'r']
  else if character == '\t' then ['\\', 't']
  else if character.toNat < 0x20 then
    ['\\', 'u', '0', '0', hexDigit (character.toNat / 16), hexDigit (character.toNat % 16)]
  else [character]

/-- A string with its quotes. -/
def writeString (text : String) : List Char :=
  '"' :: (text.toList.flatMap escapeCharacter ++ ['"'])

/-- A number.  A number that is no whole number has no text of its own left. -/
def Number.write : Number → List Char
  | .integer value => (toString value).toList
  | .inexact _ => "0.0".toList

mutual

/-- A value without blanks. -/
def write : Json → List Char
  | .null => "null".toList
  | .bool true => "true".toList
  | .bool false => "false".toList
  | .number value => value.write
  | .string value => writeString value
  | .unpaired => writeString ""
  | .array items => '[' :: (writeItems items ++ [']'])
  | .object members => '{' :: (writeMembers members ++ ['}'])

/-- The items of a list, with commas between them. -/
def writeItems : List Json → List Char
  | [] => []
  | [item] => item.write
  | item :: items => item.write ++ ',' :: writeItems items

/-- The members of an object, with commas between them. -/
def writeMembers : List (Option String × Json) → List Char
  | [] => []
  | [(name, value)] => writeString (name.getD "") ++ ':' :: value.write
  | (name, value) :: members =>
      writeString (name.getD "") ++ ':' :: (value.write ++ ',' :: writeMembers members)

end

/-- The compact text of a value. -/
def compact (value : Json) : String := String.ofList value.write

/-! ## The indented layout -/

/-- The start of a line that lies this many levels deep. -/
def newLine (level : Nat) : List Char := '\n' :: List.replicate (2 * level) ' '

mutual

/-- A value whose first line has been indented for its level. -/
def writeIndented (level : Nat) : Json → List Char
  | .null => "null".toList
  | .bool true => "true".toList
  | .bool false => "false".toList
  | .number value => value.write
  | .string value => writeString value
  | .unpaired => writeString ""
  | .array [] => ['[', ']']
  | .array items =>
      '[' :: (newLine (level + 1) ++ (writeIndentedItems (level + 1) items ++
        (newLine level ++ [']'])))
  | .object [] => ['{', '}']
  | .object members =>
      '{' :: (newLine (level + 1) ++ (writeIndentedMembers (level + 1) members ++
        (newLine level ++ ['}'])))

/-- The items of a list, each on its line. -/
def writeIndentedItems (level : Nat) : List Json → List Char
  | [] => []
  | [item] => item.writeIndented level
  | item :: items =>
      item.writeIndented level ++ ',' :: (newLine level ++ writeIndentedItems level items)

/-- The members of an object, each on its line. -/
def writeIndentedMembers (level : Nat) : List (Option String × Json) → List Char
  | [] => []
  | [(name, value)] => writeString (name.getD "") ++ ':' :: ' ' :: value.writeIndented level
  | (name, value) :: members =>
      writeString (name.getD "") ++ ':' :: ' ' :: (value.writeIndented level ++
        ',' :: (newLine level ++ writeIndentedMembers level members))

end

/-- The indented text of a value. -/
def pretty (value : Json) : String := String.ofList (value.writeIndented 0)

end DiagnosticReport.Json
