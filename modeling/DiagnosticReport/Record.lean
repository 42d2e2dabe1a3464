import DiagnosticReport.Checker
import DiagnosticReport.Level
import DiagnosticReport.Location

/-!
# Records

A `Record` is the one form into which the diagnostics of every checker are
brought.  All outputs are projections of records.

As JSON a record always has its conclusion and its checker; everything else is
left out when it is absent.
-/

set_option autoImplicit false

namespace DiagnosticReport

/-- A stack trace, as one text or as a list of frames. -/
inductive Stack where
  | text (value : String)
  /-- One text a frame. -/
  | frames (values : List String)
  deriving DecidableEq, Repr

/-- A diagnostic in the form that all checkers share. -/
structure Record where
  message : Option String := none
  /-- A closing remark; empty if there is none. -/
  conclusion : String := ""
  stack : Option Stack := none
  /-- The file that the diagnostic is about. -/
  id : Option String := none
  checker : Checker
  /-- The source around the location, with terminal colours. -/
  codeFrame : Option String := none
  /-- The same source without colours. -/
  plainFrame : Option String := none
  /-- Where in the file it applies. -/
  location : Option Location := none
  level : Option Level := none
  deriving DecidableEq, Repr

/-- The level that a JSON value names. -/
def Level.ofJson? (value : Json) : Option Level := value.constant?.bind ofName?

def Level.toJson (level : Level) : Json := .string level.name

/-- The checker that a JSON value names. -/
def Checker.ofJson? (value : Json) : Option Checker := value.constant?.bind ofName?

def Checker.toJson (checker : Checker) : Json := .string checker.name

namespace Stack

/-- The stack that a JSON value holds. -/
def ofJson? : Json → Option Stack
  | .string value => some (.text value)
  | value => (value.list? Json.string?).map .frames

def toJson : Stack → Json
  | .text value => .string value
  | .frames values => .array (values.map .string)

/-- A stack as one text, with one frame a line. -/
def flatten : Stack → String
  | .text value => value
  | .frames values => String.intercalate "\n" values

end Stack

namespace Record

/-- The record of an error. -/
def isError (record : Record) : Bool := record.level == some .error

/-- The record of a warning. -/
def isWarning (record : Record) : Bool := record.level == some .warning

/-- The names of the fields in JSON. -/
def fieldNames : List String :=
  ["message", "conclusion", "stack", "id", "checker", "codeFrame", "stripedCodeFrame", "loc",
    "level"]

/-- The record that a JSON value holds. -/
def ofJson? (value : Json) : Option Record := do
  let members ← value.members? fieldNames
  let message ← Json.optional Json.string? "message" members
  let conclusion ← Json.defaulted "" Json.string? "conclusion" members
  let stack ← Json.optional Stack.ofJson? "stack" members
  let id ← Json.optional Json.string? "id" members
  let checker ← Json.required Checker.ofJson? "checker" members
  let codeFrame ← Json.optional Json.string? "codeFrame" members
  let plainFrame ← Json.optional Json.string? "stripedCodeFrame" members
  let location ← Json.optional Location.ofJson? "loc" members
  let level ← Json.optional Level.ofJson? "level" members
  return { message, conclusion, stack, id, checker, codeFrame, plainFrame, location, level }

def toJson (record : Record) : Json :=
  .record (
    Json.present "message" .string record.message ++
    [("conclusion", .string record.conclusion)] ++
    Json.present "stack" Stack.toJson record.stack ++
    Json.present "id" .string record.id ++
    [("checker", record.checker.toJson)] ++
    Json.present "codeFrame" .string record.codeFrame ++
    Json.present "stripedCodeFrame" .string record.plainFrame ++
    Json.present "loc" Location.toJson record.location ++
    Json.present "level" Level.toJson record.level)

end Record

end DiagnosticReport
