import DiagnosticReport.Record

/-!
# Overlay payloads

For an overlay that runs elsewhere a record becomes a `Payload`: texts only, the
frame without escape sequences, and the start of the location with its file.
The payloads of one checker travel in an `Envelope`.

As JSON a payload always has its message, its stack and its checker; everything
else is left out when it is absent.
-/

set_option autoImplicit false

namespace DiagnosticReport

/-- The place of a diagnostic. -/
structure PayloadLocation where
  file : String
  line : Int64
  column : Int64
  deriving DecidableEq, Repr

/-- A diagnostic as the overlay receives it. -/
structure Payload where
  message : String
  /-- The stack trace; empty if there is none. -/
  stack : String
  id : Option String := none
  /-- The source around the location, without escape sequences. -/
  frame : Option String := none
  checker : Checker
  level : Option Level := none
  /-- The place of its start. -/
  location : Option PayloadLocation := none
  deriving DecidableEq, Repr

/-- The payloads of one checker. -/
structure Delivery where
  checker : Checker
  payloads : List Payload
  deriving DecidableEq, Repr

/-- A delivery with its two tags. -/
structure Envelope where
  /-- The kind of message. -/
  kind : String
  /-- The event that it announces. -/
  event : String
  delivery : Delivery
  deriving DecidableEq, Repr

/-- The event of every envelope that this library makes. -/
def diagnosticsEvent : String := "checkframe:diagnostics"

/-- The payload of a record. -/
def Payload.ofRecord (record : Record) : Payload where
  message := record.message.getD ""
  stack := record.stack.elim "" Stack.flatten
  id := record.id
  frame := record.plainFrame
  checker := record.checker
  level := record.level
  location := record.location.map fun location =>
    ⟨record.id.getD "", location.start.line, location.start.column⟩

/-- The envelope of a checker's payloads. -/
def Envelope.ofPayloads (checker : Checker) (payloads : List Payload) : Envelope :=
  ⟨"custom", diagnosticsEvent, ⟨checker, payloads⟩⟩

/-- The envelope of a checker's records. -/
def Envelope.ofRecords (checker : Checker) (records : List Record) : Envelope :=
  .ofPayloads checker (records.map Payload.ofRecord)

/-! ## JSON -/

namespace PayloadLocation

/-- The place that a JSON value holds. -/
def ofJson? (value : Json) : Option PayloadLocation := do
  let members ← value.members? ["file", "line", "column"]
  let file ← Json.required Json.string? "file" members
  let line ← Json.required Json.int64? "line" members
  let column ← Json.required Json.int64? "column" members
  return ⟨file, line, column⟩

def toJson (location : PayloadLocation) : Json :=
  .record [("file", .string location.file), ("line", .int location.line.toInt),
    ("column", .int location.column.toInt)]

end PayloadLocation

namespace Payload

/-- The payload that a JSON value holds. -/
def ofJson? (value : Json) : Option Payload := do
  let members ← value.members?
    ["message", "stack", "id", "frame", "checkerId", "level", "loc"]
  let message ← Json.required Json.string? "message" members
  let stack ← Json.required Json.string? "stack" members
  let id ← Json.optional Json.string? "id" members
  let frame ← Json.optional Json.string? "frame" members
  let checker ← Json.required Checker.ofJson? "checkerId" members
  let level ← Json.optional Level.ofJson? "level" members
  let location ← Json.optional PayloadLocation.ofJson? "loc" members
  return { message, stack, id, frame, checker, level, location }

def toJson (payload : Payload) : Json :=
  .record (
    [("message", .string payload.message), ("stack", .string payload.stack)] ++
    Json.present "id" .string payload.id ++
    Json.present "frame" .string payload.frame ++
    [("checkerId", payload.checker.toJson)] ++
    Json.present "level" Level.toJson payload.level ++
    Json.present "loc" PayloadLocation.toJson payload.location)

end Payload

namespace Delivery

/-- The delivery that a JSON value holds. -/
def ofJson? (value : Json) : Option Delivery := do
  let members ← value.members? ["checkerId", "diagnostics"]
  let checker ← Json.required Checker.ofJson? "checkerId" members
  let payloads ← Json.required (Json.list? Payload.ofJson?) "diagnostics" members
  return ⟨checker, payloads⟩

def toJson (delivery : Delivery) : Json :=
  .record [("checkerId", delivery.checker.toJson),
    ("diagnostics", .array (delivery.payloads.map Payload.toJson))]

end Delivery

namespace Envelope

/-- The envelope that a JSON value holds. -/
def ofJson? (value : Json) : Option Envelope := do
  let members ← value.members? ["type", "event", "data"]
  let kind ← Json.required Json.string? "type" members
  let event ← Json.required Json.string? "event" members
  let delivery ← Json.required Delivery.ofJson? "data" members
  return ⟨kind, event, delivery⟩

def toJson (envelope : Envelope) : Json :=
  .record [("type", .string envelope.kind), ("event", .string envelope.event),
    ("data", envelope.delivery.toJson)]

end Envelope

end DiagnosticReport
