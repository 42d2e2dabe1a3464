import DiagnosticReport.Frame
import DiagnosticReport.Record

/-!
# Diagnostics of the type checkers

Both type checkers describe a diagnostic alike: the file with its text, a
category number, and the span as an offset with a length.  The message is one
text, or a tree of texts (`MessageChain`) in which each level explains the one
above it; the tree is laid out with one text a line, two more spaces a level.

A location needs the file, the offset and the length.  The end of the span is
computed in 64 bits and stays at the greatest offset there.
-/

set_option autoImplicit false

namespace DiagnosticReport

/-- A message with the messages that explain it. -/
inductive MessageChain where
  /-- A text, its category and code, and the chains below it. -/
  | node (text : String) (category : Int64) (code : UInt32) (next : List MessageChain)
  deriving Repr

/-- What a type checker says. -/
inductive MessageText where
  | plain (text : String)
  | chain (root : MessageChain)
  deriving Repr

/-- A file of the program that is checked. -/
structure SourceFile where
  name : String
  text : String := ""
  deriving DecidableEq, Repr

/-- A diagnostic of a type checker. -/
structure CompilerDiagnostic where
  file : Option SourceFile := none
  message : MessageText
  /-- The number of its level. -/
  category : Int64
  code : UInt32 := 0
  start : Option UInt64 := none
  length : Option UInt64 := none
  deriving Repr

/-! ## The text of a message -/

namespace MessageChain

/-- What stands in front of a text at this depth: a new line with two spaces a
level, and nothing in front of the first text. -/
def lead (newLine : String) (depth : Nat) : String :=
  if depth = 0 then "" else newLine ++ String.ofList (List.replicate (2 * depth) ' ')

mutual

/-- What is written so far with a chain behind it, its text first and then the chains
below it. -/
def flattenInto (newLine : String) (depth : Nat) (written : String) : MessageChain → String
  | .node text _ _ next =>
      flattenAllInto newLine (depth + 1) (written ++ lead newLine depth ++ text) next

/-- What is written so far with several chains behind it. -/
def flattenAllInto (newLine : String) (depth : Nat) (written : String) :
    List MessageChain → String
  | [] => written
  | chain :: chains =>
      flattenAllInto newLine depth (chain.flattenInto newLine depth written) chains

end

/-- The texts of a chain, each on a line of its own and indented by its depth. -/
def flatten (newLine : String) (chain : MessageChain) : String :=
  chain.flattenInto newLine 0 ""

end MessageChain

/-- The message as one text. -/
def MessageText.flatten (newLine : String) : MessageText → String
  | .plain text => text
  | .chain root => root.flatten newLine

/-! ## From diagnostic to record -/

namespace CompilerDiagnostic

/-- The offset behind a span, or the greatest 64-bit offset. -/
def spanEnd (start length : UInt64) : Nat := min (start.toNat + length.toNat) (UInt64.size - 1)

/-- The location of a span in a text. -/
def spanLocation (text : String) (start length : UInt64) : Location :=
  EngineRange.toLocation
    ⟨.ofOffset text.toList start.toNat, .ofOffset text.toList (spanEnd start length)⟩

/-- The location of a diagnostic, and the text that it lies in. -/
def place? (diagnostic : CompilerDiagnostic) : Option (String × Location) :=
  match diagnostic.file, diagnostic.start, diagnostic.length with
  | some file, some start, some length => some (file.text, spanLocation file.text start length)
  | _, _, _ => none

/-- The record of a diagnostic.  An unknown category counts as an error. -/
def normalize (diagnostic : CompilerDiagnostic) : Record :=
  let place := diagnostic.place?
  let frame := place.map fun (text, location) => CodeFrame.render text location
  { message := some (diagnostic.message.flatten "\n")
    id := diagnostic.file.map SourceFile.name
    checker := .typeScript
    codeFrame := frame.map CodeFrame.decorated
    plainFrame := frame.map CodeFrame.stripped
    location := place.map Prod.snd
    level := some ((Level.ofOrdinal? diagnostic.category.toInt).getD .error) }

/-- The record of a diagnostic of the checker for single-file components. -/
def normalizeComponent (diagnostic : CompilerDiagnostic) : Record :=
  { diagnostic.normalize with checker := .vueTsc }

end CompilerDiagnostic

/-! ## JSON -/

namespace MessageChain

/-- The chain that a JSON value holds, if it is not more than `depth` levels
deep. -/
def ofJson? : Nat → Json → Option MessageChain
  | 0, _ => none
  | depth + 1, value => do
      let members ← value.members? ["messageText", "category", "code", "next"]
      let text ← Json.required Json.string? "messageText" members
      let category ← Json.defaulted 0 Json.int64? "category" members
      let code ← Json.defaulted 0 Json.uint32? "code" members
      let next ← Json.defaulted [] (Json.list? (ofJson? depth)) "next" members
      return .node text category code next

mutual

def toJson : MessageChain → Json
  | .node text category code next =>
      .record [("messageText", .string text), ("category", .int category.toInt),
        ("code", .int code.toNat), ("next", .array (toJsonItems next))]

/-- Several chains as JSON values. -/
def toJsonItems : List MessageChain → List Json
  | [] => []
  | chain :: chains => chain.toJson :: toJsonItems chains

end

end MessageChain

namespace MessageText

/-- The message that a JSON value holds.  All of a chain has to be readable
within `room` levels of containers, its unknown fields included. -/
def ofJson? (room : Nat) : Json → Option MessageText
  | .string text => some (.plain text)
  | value =>
      if value.readable room then (MessageChain.ofJson? room value).map .chain else none

def toJson : MessageText → Json
  | .plain text => .string text
  | .chain root => root.toJson

end MessageText

namespace SourceFile

/-- The file that a JSON value holds. -/
def ofJson? (value : Json) : Option SourceFile := do
  let members ← value.members? ["fileName", "text"]
  let name ← Json.required Json.string? "fileName" members
  let text ← Json.defaulted "" Json.string? "text" members
  return ⟨name, text⟩

def toJson (file : SourceFile) : Json :=
  .record [("fileName", .string file.name), ("text", .string file.text)]

end SourceFile

namespace CompilerDiagnostic

/-- The names of the fields in JSON. -/
def fieldNames : List String :=
  ["file", "messageText", "category", "code", "start", "length"]

/-- The diagnostic that a JSON value holds, within `room` levels of
containers. -/
def ofJson? (room : Nat) (value : Json) : Option CompilerDiagnostic := do
  let members ← value.members? fieldNames
  let file ← Json.optional SourceFile.ofJson? "file" members
  let message ← Json.required (MessageText.ofJson? (room - 1)) "messageText" members
  let category ← Json.required Json.int64? "category" members
  let code ← Json.defaulted 0 Json.uint32? "code" members
  let start ← Json.optional Json.uint64? "start" members
  let length ← Json.optional Json.uint64? "length" members
  return { file, message, category, code, start, length }

/-- The diagnostics that a JSON list holds, within `room` levels of
containers. -/
def listOfJson? (room : Nat) (value : Json) : Option (List CompilerDiagnostic) :=
  value.list? (ofJson? (room - 1))

def toJson (diagnostic : CompilerDiagnostic) : Json :=
  .record [
    ("file", Json.ofOption SourceFile.toJson diagnostic.file),
    ("messageText", diagnostic.message.toJson),
    ("category", .int diagnostic.category.toInt),
    ("code", .int diagnostic.code.toNat),
    ("start", Json.ofOption (fun offset => .int offset.toNat) diagnostic.start),
    ("length", Json.ofOption (fun length => .int length.toNat) diagnostic.length)]

end CompilerDiagnostic

end DiagnosticReport
