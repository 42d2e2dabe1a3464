import DiagnosticReport.Json.Write
import DiagnosticReport.Overlay

/-!
# Console and workers

Only one writer touches the console.  A main `Logger` writes to its own writer;
a worker logger posts messages to the channel of a coordinator, which writes the
texts and hands over the envelopes in the order in which they were posted, once
it runs.

`Office` is the whole: the main writer, the coordinator with its channel and its
writer, and the workers.  A channel has a number, so that a worker of an earlier
coordinator does not post to a later one.  A message to a channel that is gone
is dropped, and a writer that refuses a line records nothing of it.
-/

set_option autoImplicit false

namespace DiagnosticReport

/-- What a worker posts. -/
inductive WorkerMessage where
  | console (text : String)
  | overlay (envelope : Envelope)
  deriving DecidableEq, Repr

namespace WorkerMessage

/-- The message with this tag and payload. -/
def ofParts? (tag : String) (payload : Json) : Option WorkerMessage :=
  if tag == "console" then payload.string?.map .console
  else if tag == "overlayError" then (Envelope.ofJson? payload).map .overlay
  else none

/-- Whether the tag of an object comes before its payload. -/
def tagComesFirst : List (Option String × Json) → Bool
  | [] => false
  | (name, _) :: members =>
      if name == some "type" then true
      else if name == some "payload" then false
      else tagComesFirst members

/-- The message that a JSON value holds.  In an array the tag is a string.  In an
object a payload in front of its tag has to be readable as a whole, and its
constants may be written with an empty object. -/
def ofJson? (value : Json) : Option WorkerMessage := do
  let members ← value.members? ["type", "payload"]
  let payload ← Json.required some "payload" members
  match value with
  | .object inOrder =>
      let tag ← Json.required Json.constant? "type" members
      if tagComesFirst inOrder then ofParts? tag payload
      else if payload.readable (Json.nestingLimit - 1) then
        ofParts? tag payload.withNullConstants
      else none
  | _ =>
      let tag ← Json.required Json.string? "type" members
      ofParts? tag payload

def toJson : WorkerMessage → Json
  | .console text => .record [("type", .string "console"), ("payload", .string text)]
  | .overlay envelope =>
      .record [("type", .string "overlayError"), ("payload", envelope.toJson)]

end WorkerMessage

/-! ## Writers -/

/-- A place where lines are written. -/
structure Writer where
  /-- The texts written so far, each with its line feed. -/
  written : List String := []
  /-- Whether it refuses to write. -/
  refuses : Bool := false
  deriving DecidableEq, Repr

namespace Writer

/-- Writes a text and a line feed. -/
def print (writer : Writer) (text : String) : Writer :=
  if writer.refuses then writer else { writer with written := writer.written ++ [text ++ "\n"] }

/-- Writes several texts. -/
def printAll (writer : Writer) (texts : List String) : Writer := texts.foldl print writer

end Writer

/-- The console texts among messages, in their order. -/
def consoleTexts (messages : List WorkerMessage) : List String :=
  messages.filterMap fun message =>
    match message with
    | .console text => some text
    | .overlay _ => none

/-- The envelopes among messages, in their order. -/
def overlayEnvelopes (messages : List WorkerMessage) : List Envelope :=
  messages.filterMap fun message =>
    match message with
    | .console _ => none
    | .overlay envelope => some envelope

/-! ## Main logger, workers and coordinator -/

/-- Where a logger sends its output. -/
inductive Logger where
  | main
  /-- To the channel with this number. -/
  | worker (channel : Nat)
  deriving DecidableEq, Repr

/-- Whether a logger writes to the main writer. -/
def Logger.isMain : Logger → Bool
  | .main => true
  | .worker _ => false

/-- The main writer, the coordinator and the workers. -/
structure Office where
  mainWriter : Writer := {}
  /-- The writer of the coordinator. -/
  writer : Writer := {}
  /-- The number of the current channel. -/
  channel : Nat := 0
  /-- The messages in the channel; none if the coordinator is gone. -/
  posted : Option (List WorkerMessage) := some []
  /-- The loggers of the workers; none for one that is gone. -/
  workers : List (Option Logger) := []
  deriving DecidableEq, Repr

namespace Office

/-- Puts a message into the channel with this number, if it is still there. -/
def post (office : Office) (channel : Nat) (message : WorkerMessage) : Office :=
  if channel = office.channel then
    { office with posted := office.posted.map fun messages => messages ++ [message] }
  else office

/-- Prints a text, or posts it. -/
def log (office : Office) (text : String) : Logger → Office
  | .main => { office with mainWriter := office.mainWriter.print text }
  | .worker channel => office.post channel (.console text)

/-- Prints an envelope as one line of JSON, or posts it. -/
def deliver (office : Office) (envelope : Envelope) : Logger → Office
  | .main => office.log envelope.toJson.compact .main
  | .worker channel => office.post channel (.overlay envelope)

/-- The logger of a worker, unless it is gone. -/
def logger? (office : Office) (worker : Nat) : Option Logger := (office.workers[worker]?).join

/-- One more worker, on the current channel. -/
def spawn (office : Office) : Office :=
  { office with workers := office.workers ++ [some (.worker office.channel)] }

/-- A worker less; the others keep their numbers. -/
def dismiss (office : Office) (worker : Nat) : Office :=
  { office with workers := office.workers.set worker none }

/-- Makes both writers refuse, or stop refusing. -/
def setRefusing (office : Office) (refuses : Bool) : Office :=
  { office with
    mainWriter := { office.mainWriter with refuses }
    writer := { office.writer with refuses } }

/-- The office without its coordinator. -/
def discard (office : Office) : Office := { office with posted := none }

/-- Dismisses all workers and runs the coordinator: the texts are written, the
envelopes handed over. -/
def run (office : Office) : Office × List Envelope :=
  let messages := office.posted.getD []
  ({ office with
      writer := office.writer.printAll (consoleTexts messages)
      posted := none
      workers := office.workers.map fun _ => none },
    overlayEnvelopes messages)

/-- A fresh coordinator with the same writer. -/
def renew (office : Office) : Office :=
  { office with channel := office.channel + 1, posted := some [] }

end Office

end DiagnosticReport
