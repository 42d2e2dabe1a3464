import DiagnosticReport.Frame
import DiagnosticReport.Record

/-!
# Diagnostics of the linter

The linter reports file by file, with the source as it saw it.  Its positions
count from one already.  A message whose rule is switched off is dropped.  A
message without an end line ends on line 0, which keeps its frame free of
carets; one without an end column ends where it starts.
-/

set_option autoImplicit false

namespace DiagnosticReport

/-- One message about a file. -/
structure LintMessage where
  /-- The rule, unless the file could not be read. -/
  ruleId : Option String := none
  /-- 0 for off, 1 for a warning, anything else for an error. -/
  severity : Int64
  message : String
  line : Int64 := 0
  column : Int64 := 0
  endLine : Option Int64 := none
  /-- The column behind the last one. -/
  endColumn : Option Int64 := none
  deriving DecidableEq, Repr

/-- All messages about one file. -/
structure LintResult where
  filePath : String
  messages : List LintMessage := []
  source : Option String := none
  /-- How many errors the linter counted. -/
  errorCount : UInt64 := 0
  /-- How many warnings the linter counted. -/
  warningCount : UInt64 := 0
  deriving DecidableEq, Repr

namespace LintMessage

/-- The level of a message; none if its rule is off. -/
def level? (message : LintMessage) : Option Level :=
  if message.severity = 0 then none
  else if message.severity = 1 then some .warning
  else some .error

/-- The location of a message. -/
def location (message : LintMessage) : Location :=
  ⟨⟨message.line, message.column⟩,
    ⟨message.endLine.getD 0, message.endColumn.getD message.column⟩⟩

/-- The record of a message about a file with this text, unless its rule is
off. -/
def normalize? (filePath source : String) (message : LintMessage) : Option Record :=
  message.level?.map fun level =>
    let frame := CodeFrame.render source message.location
    { message := some (message.message ++ " (" ++ message.ruleId.getD "null" ++ ")")
      id := some filePath
      checker := .esLint
      codeFrame := some frame.decorated
      plainFrame := some frame.stripped
      location := some message.location
      level := some level }

/-- The message that a JSON value holds. -/
def ofJson? (value : Json) : Option LintMessage := do
  let members ← value.members?
    ["ruleId", "severity", "message", "line", "column", "endLine", "endColumn"]
  let ruleId ← Json.optional Json.string? "ruleId" members
  let severity ← Json.required Json.int64? "severity" members
  let message ← Json.required Json.string? "message" members
  let line ← Json.defaulted 0 Json.int64? "line" members
  let column ← Json.defaulted 0 Json.int64? "column" members
  let endLine ← Json.optional Json.int64? "endLine" members
  let endColumn ← Json.optional Json.int64? "endColumn" members
  return { ruleId, severity, message, line, column, endLine, endColumn }

def toJson (message : LintMessage) : Json :=
  .record [
    ("ruleId", Json.ofOption .string message.ruleId),
    ("severity", .int message.severity.toInt),
    ("message", .string message.message),
    ("line", .int message.line.toInt),
    ("column", .int message.column.toInt),
    ("endLine", Json.ofOption (fun line => .int line.toInt) message.endLine),
    ("endColumn", Json.ofOption (fun column => .int column.toInt) message.endColumn)]

end LintMessage

namespace LintResult

/-- The records of a file, in the order of its messages. -/
def normalize (result : LintResult) : List Record :=
  result.messages.filterMap (LintMessage.normalize? result.filePath (result.source.getD ""))

/-- The records of several files. -/
def normalizeAll (results : List LintResult) : List Record := results.flatMap normalize

/-- The result that a JSON value holds. -/
def ofJson? (value : Json) : Option LintResult := do
  let members ← value.members?
    ["filePath", "messages", "source", "errorCount", "warningCount"]
  let filePath ← Json.required Json.string? "filePath" members
  let messages ← Json.defaulted [] (Json.list? LintMessage.ofJson?) "messages" members
  let source ← Json.optional Json.string? "source" members
  let errorCount ← Json.defaulted 0 Json.uint64? "errorCount" members
  let warningCount ← Json.defaulted 0 Json.uint64? "warningCount" members
  return { filePath, messages, source, errorCount, warningCount }

def toJson (result : LintResult) : Json :=
  .record [
    ("filePath", .string result.filePath),
    ("messages", .array (result.messages.map LintMessage.toJson)),
    ("source", Json.ofOption .string result.source),
    ("errorCount", .int result.errorCount.toNat),
    ("warningCount", .int result.warningCount.toNat)]

end LintResult

end DiagnosticReport
