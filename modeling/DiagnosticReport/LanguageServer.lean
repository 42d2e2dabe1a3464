import DiagnosticReport.FileTree
import DiagnosticReport.Frame
import DiagnosticReport.Record
import DiagnosticReport.Uri.Resolve

/-!
# Diagnostics of the language server

A language server publishes the diagnostics of one document at a time and names
the document by its URI.  To draw the frames the document is read, once for the
whole notification.  A URI that stands for no file and a document that cannot be
read are errors of the notification, even if it has no diagnostics.
-/

set_option autoImplicit false

namespace DiagnosticReport

/-- One diagnostic of a document. -/
structure ServerDiagnostic where
  /-- The span, counted from zero. -/
  range : EngineRange
  /-- 2 for a warning, 3 for information, 4 for a hint, all else for an error. -/
  severity : Option Int64 := none
  message : String
  deriving DecidableEq, Repr

/-- The diagnostics of one document. -/
structure Notification where
  uri : String
  diagnostics : List ServerDiagnostic := []
  deriving DecidableEq, Repr

/-- Why a notification has no records. -/
inductive NotificationError where
  | invalidUri (uri : String)
  | unreadable (path : String) (cause : FileError)
  deriving DecidableEq, Repr

def NotificationError.message : NotificationError → String
  | .invalidUri uri => "Not a file URI: " ++ uri
  | .unreadable path cause => "Failed to read " ++ path ++ ": " ++ cause.message

namespace ServerDiagnostic

/-- The level of a severity. -/
def levelOf (severity : Option Int64) : Level :=
  if severity = some 2 then .warning
  else if severity = some 3 then .message
  else if severity = some 4 then .suggestion
  else .error

/-- The record of a diagnostic of the document with this path and text. -/
def normalize (path text : String) (diagnostic : ServerDiagnostic) : Record :=
  let location := diagnostic.range.toLocation
  let frame := CodeFrame.render text location
  { message := some (Text.trim diagnostic.message)
    id := some path
    checker := .vls
    codeFrame := some frame.decorated
    plainFrame := some frame.stripped
    location := some location
    level := some (levelOf diagnostic.severity) }

/-- The diagnostic that a JSON value holds. -/
def ofJson? (value : Json) : Option ServerDiagnostic := do
  let members ← value.members? ["range", "severity", "message"]
  let range ← Json.required EngineRange.ofJson? "range" members
  let severity ← Json.optional Json.int64? "severity" members
  let message ← Json.required Json.string? "message" members
  return { range, severity, message }

def toJson (diagnostic : ServerDiagnostic) : Json :=
  .record [
    ("range", diagnostic.range.toJson),
    ("severity", Json.ofOption (fun severity => .int severity.toInt) diagnostic.severity),
    ("message", .string diagnostic.message)]

end ServerDiagnostic

namespace Notification

/-- The path of the document with this URI, as it is shown. -/
def documentPath (uri : String) : Except NotificationError (List UInt8) :=
  match Uri.filePath? uri with
  | some path => .ok path
  | none => .error (.invalidUri uri)

/-- A path as it is shown. -/
def showPath (path : List UInt8) : String := String.ofList (Text.Utf8.decodeLossy path)

/-- The records of a notification, in the order of its diagnostics. -/
def normalize (tree : FileTree) (notification : Notification) :
    Except NotificationError (List Record) := do
  let path ← documentPath notification.uri
  match tree.readBytesPath path with
  | .ok text => .ok (notification.diagnostics.map (ServerDiagnostic.normalize (showPath path) text))
  | .error cause => .error (.unreadable (showPath path) cause)

/-- The notification that a JSON value holds. -/
def ofJson? (value : Json) : Option Notification := do
  let members ← value.members? ["uri", "diagnostics"]
  let uri ← Json.required Json.string? "uri" members
  let diagnostics ← Json.defaulted [] (Json.list? ServerDiagnostic.ofJson?) "diagnostics" members
  return { uri, diagnostics }

/-- The notifications of a dump, which holds one of them or a list.  All of it
has to be readable, unknown fields included. -/
def dumpOfJson? (value : Json) : Option (List Notification) :=
  if value.readable Json.nestingLimit then
    match ofJson? value with
    | some notification => some [notification]
    | none => value.list? ofJson?
  else none

def toJson (notification : Notification) : Json :=
  .record [
    ("uri", .string notification.uri),
    ("diagnostics", .array (notification.diagnostics.map ServerDiagnostic.toJson))]

end Notification

end DiagnosticReport
