import DiagnosticReport.Compiler
import DiagnosticReport.Config
import DiagnosticReport.Console
import DiagnosticReport.Json.Read
import DiagnosticReport.LanguageServer
import DiagnosticReport.Linter
import DiagnosticReport.Summary
import DiagnosticReport.Terminal

/-!
# Reports

A report runs one job for each dump of diagnostics.  A job reads its dump,
brings the diagnostics to records, filters them, and posts what is to be shown:
blocks and a summary for the terminal, or one envelope for the overlay.  Jobs
know nothing of each other; a job that fails posts one line that says so and
counts nothing.

The level names of all jobs are checked before any job runs.  After that
nothing fails: the coordinator writes the console texts in the order in which
the messages of all jobs arrive, and the counts of the jobs are added up.
-/

set_option autoImplicit false

namespace DiagnosticReport

/-- What a report is to produce. -/
inductive OutputFormat where
  | terminal
  | overlay
  deriving DecidableEq, Repr

/-- What a report is asked for. -/
structure ReportRequest where
  typeScript : List String := []
  vueTsc : List String := []
  esLint : List String := []
  vls : List String := []
  format : OutputFormat := .terminal
  /-- Level names that replace those of the configuration. -/
  levels : Option (List String) := none
  deriving DecidableEq, Repr

/-- One dump and the checker that it comes from. -/
structure Job where
  checker : Checker
  input : String
  deriving DecidableEq, Repr

/-- Why a job fails. -/
inductive JobError where
  | unreadable (input : String) (cause : FileError)
  /-- The dump does not hold diagnostics of the checker. -/
  | malformed (checker : Checker) (input : String)
  deriving DecidableEq, Repr

namespace JobError

/-- What stands where the reader of a dump says what is wrong with it, and at which place of
the text. That detail is not modelled: this text stands for it, whatever the dump is. -/
def malformedDetail : String := "not a valid dump"

def message : JobError → String
  | .unreadable input cause => "read " ++ input ++ ": " ++ cause.message
  | .malformed checker input =>
      "parse " ++ checker.name ++ " diagnostics from " ++ input ++ ": " ++ malformedDetail

end JobError

/-- What a job makes of its dump. -/
structure JobRecords where
  /-- The errors of notifications that have no records. -/
  errors : List NotificationError := []
  /-- The records, not filtered yet. -/
  records : List Record
  deriving DecidableEq, Repr

/-- What a job posts and counts. -/
structure JobResult where
  /-- The messages, in their order. -/
  messages : List WorkerMessage
  counts : Counts
  deriving DecidableEq, Repr

/-- What surrounds a report. -/
structure Surroundings where
  tree : FileTree
  config : Config
  /-- Whether texts are coloured. -/
  colors : Bool

/-! ## From dump to records -/

namespace Job

/-- The records of notifications, and the errors of those that have none. -/
def ofNotifications (tree : FileTree) : List Notification → JobRecords
  | [] => { records := [] }
  | notification :: notifications =>
      let later := ofNotifications tree notifications
      match notification.normalize tree with
      | .ok records => { later with records := records ++ later.records }
      | .error error => { later with errors := error :: later.errors }

/-- The records of a dump of this checker. -/
def recordsOfJson? (tree : FileTree) (value : Json) : Checker → Option JobRecords
  | .typeScript =>
      (CompilerDiagnostic.listOfJson? Json.nestingLimit value).map fun diagnostics =>
        { records := diagnostics.map CompilerDiagnostic.normalize }
  | .vueTsc =>
      (CompilerDiagnostic.listOfJson? Json.nestingLimit value).map fun diagnostics =>
        { records := diagnostics.map CompilerDiagnostic.normalizeComponent }
  | .esLint =>
      (value.list? LintResult.ofJson?).map fun results =>
        { records := LintResult.normalizeAll results }
  | .vls => (Notification.dumpOfJson? value).map (ofNotifications tree)

/-- The records of the dump of a job. -/
def read (tree : FileTree) (job : Job) : Except JobError JobRecords :=
  match tree.readText job.input with
  | .error cause => .error (.unreadable job.input cause)
  | .ok text =>
      match (Json.ofText? text).bind fun value => recordsOfJson? tree value job.checker with
      | some records => .ok records
      | none => .error (.malformed job.checker job.input)

/-! ## From records to messages -/

/-- The line for a notification without records. -/
def notificationLine (colors : Bool) (error : NotificationError) : String :=
  "  " ++ Text.Style.red.paint colors "lsp error" ++ ": " ++ error.message

/-- The line for a job that fails. -/
def failureLine (colors : Bool) (checker : Checker) (error : JobError) : String :=
  "  " ++ Text.Style.red.paint colors ("[" ++ checker.name ++ "] failed") ++ ": " ++ error.message

/-- The blocks of records and their summary. -/
def terminalTexts (colors : Bool) (checker : Checker) (records : List Record) : List String :=
  records.map (Terminal.block colors (some checker)) ++
    [(Summary.compose checker.name (Counts.tally records)).display colors]

/-- What is posted for records that passed the filter. -/
def post (surroundings : Surroundings) (format : OutputFormat) (checker : Checker)
    (records : List Record) : List WorkerMessage :=
  match format with
  | .terminal =>
      if surroundings.config.terminalEnabled then
        (terminalTexts surroundings.colors checker records).map .console
      else []
  | .overlay =>
      if surroundings.config.overlayEnabled then [.overlay (.ofRecords checker records)] else []

/-- Runs a job. -/
def run (surroundings : Surroundings) (format : OutputFormat) (filter : LevelFilter)
    (job : Job) : JobResult :=
  match job.read surroundings.tree with
  | .error error =>
      ⟨[.console (failureLine surroundings.colors job.checker error)], {}⟩
  | .ok read =>
      let passed := filter.apply read.records
      ⟨read.errors.map (fun error => .console (notificationLine surroundings.colors error)) ++
        post surroundings format job.checker passed, Counts.tally passed⟩

end Job

/-! ## Whole reports -/

namespace ReportRequest

/-- The dumps of a checker. -/
def inputs (request : ReportRequest) : Checker → List String
  | .typeScript => request.typeScript
  | .vueTsc => request.vueTsc
  | .esLint => request.esLint
  | .vls => request.vls

/-- The jobs of a request, checker by checker. -/
def jobs (request : ReportRequest) : List Job :=
  Checker.all.flatMap fun checker => (request.inputs checker).map (Job.mk checker)

/-- The filter for a checker: the names of the request, or else those of the
configuration. -/
def filterFor (request : ReportRequest) (config : Config) (checker : Checker) :
    Except UnknownLevel LevelFilter :=
  match request.levels with
  | some names => LevelFilter.ofNames names
  | none => config.levels.filterFor checker

/-- The jobs with their filters. -/
def plan (request : ReportRequest) (config : Config) :
    Except UnknownLevel (List (LevelFilter × Job)) :=
  request.jobs.mapM fun job => do
    let filter ← request.filterFor config job.checker
    return (filter, job)

end ReportRequest

/-- What a report leaves behind. -/
structure ReportOutcome where
  /-- The counts of all jobs. -/
  counts : Counts := {}
  /-- The envelopes, in the order of their arrival. -/
  envelopes : List Envelope := []
  deriving DecidableEq, Repr

/-- Whether a report found errors. -/
def ReportOutcome.foundErrors (outcome : ReportOutcome) : Bool := outcome.counts.errors > 0

namespace Report

/-- The line for a report without any job. -/
def noJobsLine (colors : Bool) : String :=
  "  " ++ Text.Style.dimmed.paint colors
    "No diagnostics to report (pass --tsc, --vue-tsc, --eslint or --lsp)"

/-- The counts of several jobs. -/
def totalCounts (results : List JobResult) : Counts :=
  (results.map JobResult.counts).foldl Counts.add {}

/-- What the coordinator makes of messages that arrive in this order. -/
def collect (writer : Writer) (arrived : List WorkerMessage) (counts : Counts) :
    Writer × ReportOutcome :=
  (writer.printAll (consoleTexts arrived), ⟨counts, overlayEnvelopes arrived⟩)

/-- Runs a report in which the messages of the jobs arrive job by job. -/
def execute (surroundings : Surroundings) (request : ReportRequest) (writer : Writer) :
    Except UnknownLevel (Writer × ReportOutcome) :=
  if request.jobs.isEmpty then .ok (writer.print (noJobsLine surroundings.colors), {})
  else do
    let plan ← request.plan surroundings.config
    let results := plan.map fun (filter, job) => job.run surroundings request.format filter
    return collect writer (results.flatMap JobResult.messages) (totalCounts results)

end Report

end DiagnosticReport
