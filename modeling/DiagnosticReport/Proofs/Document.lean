import DiagnosticReport.CommandLine
import DiagnosticReport.Proofs.Compiler.Nesting

/-!
# Documents that are written and read again

Six kinds of structures have JSON texts of their own (`Document`). Many texts
denote the same value: the members may come in any order and with others among
them, a structure may be an array, fields with a default may be missing, absent
values may be `null`, and strings may be escaped in many ways. A value is written
in one way only.

Whatever value a text denotes, the text that is written for the value denotes it
too, so writing what was read a second time changes nothing. And the array of
envelopes that a report prints denotes the envelopes of the report. Both are
stated in `Document.written_is_reread`.
-/

set_option autoImplicit false

namespace DiagnosticReport

/-- The kinds of structures that have JSON texts of their own. -/
inductive Document where
  | compilerDiagnostic
  | lintResult
  | notification
  | record
  | envelope
  | workerMessage
  deriving DecidableEq, Repr

namespace Document

/-- The values of a kind. -/
def Value : Document → Type
  | .compilerDiagnostic => CompilerDiagnostic
  | .lintResult => LintResult
  | .notification => Notification
  | .record => Record
  | .envelope => Envelope
  | .workerMessage => WorkerMessage

/-- The value that a JSON value holds. -/
def ofJson? : (document : Document) → Json → Option document.Value
  | .compilerDiagnostic => CompilerDiagnostic.ofJson? Json.nestingLimit
  | .lintResult => LintResult.ofJson?
  | .notification => Notification.ofJson?
  | .record => Record.ofJson?
  | .envelope => Envelope.ofJson?
  | .workerMessage => WorkerMessage.ofJson?

def toJson : (document : Document) → document.Value → Json
  | .compilerDiagnostic => CompilerDiagnostic.toJson
  | .lintResult => LintResult.toJson
  | .notification => Notification.toJson
  | .record => Record.toJson
  | .envelope => Envelope.toJson
  | .workerMessage => WorkerMessage.toJson

/-- The value that a text denotes, if it is accepted. -/
def ofText? (document : Document) (text : String) : Option document.Value :=
  (Json.ofText? text).bind document.ofJson?

/-- The text that is written for a value. -/
def toText (document : Document) (value : document.Value) : String :=
  (document.toJson value).compact

/-! ## Values -/

theorem plain_toJson (document : Document) (value : document.Value) :
    (document.toJson value).Plain := by
  cases document with
  | compilerDiagnostic => exact CompilerDiagnostic.plain_toJson value
  | lintResult => exact LintResult.faithful.plain value
  | notification => exact Notification.faithful.plain value
  | record => exact Record.faithful.plain value
  | envelope => exact Envelope.faithful.plain value
  | workerMessage => exact WorkerMessage.faithful.plain value

/-- A value that has been read is read back. Only the diagnostics of the type
checkers need that it has been read: this bounds the depth of their messages. -/
theorem ofJson?_toJson (document : Document) {source : Json} {value : document.Value}
    (read : document.ofJson? source = some value) :
    document.ofJson? (document.toJson value) = some value := by
  cases document with
  | compilerDiagnostic => exact CompilerDiagnostic.ofJson?_toJson (by decide) read
  | lintResult => exact LintResult.faithful.reads value
  | notification => exact Notification.faithful.reads value
  | record => exact Record.faithful.reads value
  | envelope => exact Envelope.faithful.reads value
  | workerMessage => exact WorkerMessage.faithful.reads value

/-! ## Texts -/

/-- The text that is written for a value that has been read denotes this value. -/
theorem ofText?_toText (document : Document) {text : String} {value : document.Value}
    (read : document.ofText? text = some value) :
    document.ofText? (document.toText value) = some value := by
  obtain ⟨source, -, read⟩ := Option.bind_eq_some_iff.mp read
  rw [ofText?, toText, Json.ofText?_compact (document.plain_toJson value), Option.bind_some]
  exact document.ofJson?_toJson read

/-- The array that is printed for envelopes denotes these envelopes. -/
theorem ofText?_envelopesText (envelopes : List Envelope) :
    (Json.ofText? (Invocation.envelopesText envelopes)).bind (Json.list? Envelope.ofJson?) =
      some envelopes := by
  rw [Invocation.envelopesText, Json.ofText?_pretty (Envelope.faithful.list.plain envelopes)]
  exact Envelope.faithful.list.reads envelopes

/-- **What is written is read again as it was.** A text that is accepted as a
document denotes a value whose written text is accepted too, denotes the same
value and is written again unchanged. A report for the overlay prints, behind the
texts of the console, an array that denotes the envelopes it has collected. -/
theorem written_is_reread :
    (∀ (document : Document) (text : String) (value : document.Value),
      document.ofText? text = some value →
        document.ofText? (document.toText value) = some value ∧
        (document.ofText? (document.toText value)).map document.toText =
          some (document.toText value)) ∧
    ∀ (tree : FileTree) (colors : Bool) (request : ReportRequest) (config : Config)
      (writer : Writer) (outcome : ReportOutcome),
      Config.find tree (Invocation.workingPath tree) = .ok config →
      Report.execute ⟨tree, config, colors⟩ request {} = .ok (writer, outcome) →
      request.format = .overlay → config.overlayEnabled = true →
        (Invocation.runReport tree colors request).output =
          String.join writer.written ++ Invocation.envelopesText outcome.envelopes ∧
        (Json.ofText? (Invocation.envelopesText outcome.envelopes)).bind
          (Json.list? Envelope.ofJson?) = some outcome.envelopes := by
  constructor
  · intro document text value read
    have again := document.ofText?_toText read
    exact ⟨again, by rw [again, Option.map_some]⟩
  · intro tree colors request config writer outcome found executed isOverlay enabled
    refine ⟨?_, ofText?_envelopesText outcome.envelopes⟩
    simp [Invocation.runReport, found, executed, isOverlay, enabled]

/-- A diagnostic whose message is a chain without `next`, all written as arrays and
with an escape. -/
def omittedNext : String := "[null,[\"\\u00e9\"],1]"

/-- A tree with an empty dump of the linter. -/
def emptyDump : FileTree := ⟨[(["b.json"], .file (Text.Utf8.encode "[]".toList))], []⟩

/-- The chain is read back from the text that has `next`, and the one envelope of
the empty dump from the array around it. -/
theorem written_of_omittedNext :
    (∃ value, ofText? .compilerDiagnostic omittedNext = some value ∧
      ofText? .compilerDiagnostic (toText .compilerDiagnostic value) = some value) ∧
    (Json.ofText? (Invocation.envelopesText [.ofRecords .esLint []])).bind
      (Json.list? Envelope.ofJson?) = some [.ofRecords .esLint []] := by
  constructor
  · have accepted : (ofText? .compilerDiagnostic omittedNext).isSome = true := by decide +kernel
    obtain ⟨value, read⟩ := Option.isSome_iff_exists.mp accepted
    exact ⟨value, read, (written_is_reread.1 _ _ value read).1⟩
  · have found : Config.find emptyDump (Invocation.workingPath emptyDump) = .ok .default := rfl
    have collected : (Report.execute ⟨emptyDump, .default, false⟩
        { esLint := ["b.json"], format := .overlay } {}).toOption.map (·.2.envelopes) =
          some [.ofRecords .esLint []] := by decide +kernel
    cases executed : Report.execute ⟨emptyDump, .default, false⟩
        { esLint := ["b.json"], format := .overlay } {} with
    | error =>
        rw [executed] at collected
        cases collected
    | ok result =>
        rw [executed] at collected
        rw [← Option.some.inj collected]
        exact (written_is_reread.2 emptyDump false _ _ _ _ found executed rfl rfl).2

end Document

end DiagnosticReport
