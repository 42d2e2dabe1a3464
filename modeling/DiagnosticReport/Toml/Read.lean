import DiagnosticReport.Toml.Document
import DiagnosticReport.Toml.Scalar

/-!
# Reading TOML documents

`Toml.ofText?` reads a whole document.  First its lines become statements, then
the statements build the table; either can fail.

As in the reader of JSON, the functions that call one another take a number of
steps, for which twice the length of the text is always enough.  Lists and
inline tables may stand inside one another 79 levels deep, and a path has at most
79 names.
-/

set_option autoImplicit false

namespace DiagnosticReport.Toml

/-! ## Names and paths -/

/-- The characters of a name without quotes. -/
def isBareCharacter (character : Char) : Bool :=
  character.isAlphanum || character == '_' || character == '-'

/-- One name of a path. -/
def readName? (text : List Char) : Option (String × List Char) :=
  match text with
  | '"' :: rest => (readBasic? rest).map fun (name, rest) => (String.ofList name, rest)
  | '\'' :: rest => (readLiteral? rest).map fun (name, rest) => (String.ofList name, rest)
  | _ =>
      let name := text.takeWhile isBareCharacter
      if name.isEmpty then none
      else some (String.ofList name, text.dropWhile isBareCharacter)

/-- How many names a path may have, and how deep values may lie. -/
def depthLimit : Nat := 79

/-- The names of a path of at most `room` names, spaces around each. -/
def readNames? : Nat → List Char → Option (List String × List Char)
  | 0, _ => none
  | room + 1, text => do
      let (name, rest) ← readName? (skipSpaces text)
      match skipSpaces rest with
      | '.' :: rest =>
          let (names, rest) ← readNames? room rest
          return (name :: names, rest)
      | rest => return ([name], rest)

/-- A path and the name at its end. -/
def readPath? (text : List Char) : Option ((List String × String) × List Char) := do
  let (names, rest) ← readNames? depthLimit text
  let name ← names.getLast?
  return ((names.dropLast, name), rest)

/-! ## Values -/

/-- A value that is neither a list nor a table. -/
def readScalar? (text : List Char) : Option (Toml × List Char) :=
  match text with
  | 't' :: 'r' :: 'u' :: 'e' :: rest => some (.boolean true, rest)
  | 'f' :: 'a' :: 'l' :: 's' :: 'e' :: rest => some (.boolean false, rest)
  | _ =>
      match readString? text with
      | some (value, rest) => some (.string value, rest)
      | none =>
          match dropMoment? text with
          | some rest => some (.moment, rest)
          | none => (dropNumber? text).map fun rest => (.number, rest)

mutual

/-- A value, at most `room` levels deep. -/
def readValue? : Nat → Nat → List Char → Option (Toml × List Char)
  | 0, _, _ => none
  | steps + 1, room, text =>
      match text with
      | '[' :: rest =>
          if room = 0 then none
          else (readItems? steps (room - 1) rest).map fun (items, rest) => (.array items, rest)
      | '{' :: rest =>
          if room = 0 then none
          else
            match skipSpaces rest with
            | '}' :: rest => some (.table [], rest)
            | _ => do
                let (assignments, rest) ← readAssignments? steps (room - 1) rest
                let table ← ofAssignments? assignments
                return (table, rest)
      | _ => readScalar? text

/-- The items of a list up to its closing bracket.  A comma may stand behind
the last one. -/
def readItems? : Nat → Nat → List Char → Option (List Toml × List Char)
  | 0, _, _ => none
  | steps + 1, room, text => do
      match ← skipLines? false text with
      | ']' :: rest => return ([], rest)
      | rest =>
          let (item, rest) ← readValue? steps room rest
          match ← skipLines? false rest with
          | ',' :: rest =>
              let (items, rest) ← readItems? steps room rest
              return (item :: items, rest)
          | ']' :: rest => return ([item], rest)
          | _ => none

/-- The assignments of an inline table that is not empty, up to its closing
brace. -/
def readAssignments? :
    Nat → Nat → List Char → Option (List (List String × String × Toml) × List Char)
  | 0, _, _ => none
  | steps + 1, room, text => do
      let ((path, name), rest) ← readPath? text
      match rest with
      | '=' :: rest =>
          let (content, rest) ← readValue? steps room (skipSpaces rest)
          match skipSpaces rest with
          | ',' :: rest =>
              let (assignments, rest) ← readAssignments? steps room rest
              return ((path, name, content) :: assignments, rest)
          | '}' :: rest => return ([(path, name, content)], rest)
          | _ => none
      | _ => none

end

/-! ## Documents -/

/-- The statement of a line that holds more than a comment, and what follows the
line. -/
def readStatement? (text : List Char) : Option (Statement × List Char) :=
  match text with
  | '[' :: '[' :: rest => do
      let ((path, name), rest) ← readPath? rest
      match rest with
      | ']' :: ']' :: rest => return (.openItem path name, ← endLine? rest)
      | _ => none
  | '[' :: rest => do
      let ((path, name), rest) ← readPath? rest
      match rest with
      | ']' :: rest => return (.openTable path name, ← endLine? rest)
      | _ => none
  | _ => do
      let ((path, name), rest) ← readPath? text
      match rest with
      | '=' :: rest =>
          let (content, rest) ← readValue? (2 * rest.length + 2) depthLimit (skipSpaces rest)
          return (.assign path name content, ← endLine? rest)
      | _ => none

/-- The statements of a text, line by line. -/
def readStatements? : Nat → List Char → Option (List Statement)
  | 0, _ => none
  | steps + 1, text =>
      match skipSpaces text with
      | [] => some []
      | text =>
          match endLine? text with
          | some rest => readStatements? steps rest
          | none => do
              let (statement, rest) ← readStatement? text
              let statements ← readStatements? steps rest
              return statement :: statements

/-- A text without a byte order mark at its start. -/
def dropByteOrderMark : List Char → List Char
  | '\ufeff' :: rest => rest
  | text => text

/-- The table of a whole document. -/
def ofText? (text : String) : Option Toml := do
  let characters := dropByteOrderMark text.toList
  let statements ← readStatements? (characters.length + 1) characters
  ofStatements? statements

end DiagnosticReport.Toml
