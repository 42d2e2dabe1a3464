import DiagnosticReport.Proofs.Colors
import DiagnosticReport.Proofs.Filter
import DiagnosticReport.Proofs.Report.Interleaving
import DiagnosticReport.Proofs.Terminal

/-!
# What a report shows, counts and exits with

A job counts the records that pass its filter. A block is labelled by the level
of its record, and a record without a level would be labelled as an error that
no count knows of; but no such record passes a filter
(`LevelFilter.allows_iff`). So the numbers in a summary are those of the
labels above it, and all of them add up to the counts of the report, on which the
exit status depends.

`counts_agree` collects this for every report, for every interleaving of its
jobs, and for either format with either output switched on or off.
-/

set_option autoImplicit false

namespace DiagnosticReport

open DiagnosticReport.Decimal

/-! ## Sums of counts -/

theorem Counts.foldl_add_eq (counts : List Counts) (start : Counts) :
    counts.foldl add start =
      ⟨start.errors + (counts.map errors).sum, start.warnings + (counts.map warnings).sum⟩ := by
  induction counts generalizing start with
  | nil => rfl
  | cons first counts ih =>
      rw [List.foldl_cons, ih, List.map_cons, List.map_cons, List.sum_cons, List.sum_cons, add,
        Nat.add_assoc, Nat.add_assoc]

/-! ## Labels of records that pass -/

namespace Job

open DiagnosticReport.Terminal

/-- Among the blocks of records that pass a filter, as many are labelled by a
level as there are records of this level. -/
theorem countP_isLabelled_blocks (colors : Bool) (checker : Checker) (level : Level)
    (filter : LevelFilter) (records : List Record) :
    ((filter.apply records).map (block colors (some checker))).countP
        (isLabelled colors checker level) =
      (filter.apply records).countP fun record => record.level == some level := by
  rw [List.countP_map]
  refine List.countP_congr fun record member => ?_
  obtain ⟨own, has, -⟩ := LevelFilter.allows_iff.mp (List.mem_filter.mp member).2
  rw [Function.comp_apply, isLabelled_block, has, Option.getD_some]
  simp

/-- Lines about notifications have no label. -/
theorem countP_isLabelled_notificationLines (colors : Bool) (checker : Checker) (level : Level)
    (errors : List NotificationError) :
    (errors.map (notificationLine colors)).countP (isLabelled colors checker level) = 0 := by
  rw [List.countP_map]
  refine List.countP_eq_zero.mpr fun error _ => ?_
  rw [Function.comp_apply, isLabelled_notificationLine]
  exact Bool.false_ne_true

end Job

namespace Report

open DiagnosticReport.Terminal

/-- The records that a planned job lets through; none if it fails. -/
def passed (tree : FileTree) (planned : LevelFilter × Job) : List Record :=
  match planned.2.read tree with
  | .ok read => planned.1.apply read.records
  | .error _ => []

/-- The errors and warnings that the jobs of a plan let through, all together. -/
def passedCounts (tree : FileTree) (plan : List (LevelFilter × Job)) : Counts :=
  ⟨(plan.map fun planned => (passed tree planned).countP Record.isError).sum,
    (plan.map fun planned => (passed tree planned).countP Record.isWarning).sum⟩

/-- The texts that a planned job logs. -/
def textsOf (surroundings : Surroundings) (format : OutputFormat)
    (planned : LevelFilter × Job) : List String :=
  consoleTexts (resultOf surroundings format planned).messages

/-- The same files and levels with other switches and colours. -/
def switched (surroundings : Surroundings) (terminal overlay colors : Bool) : Surroundings :=
  { surroundings with
    config :=
      { surroundings.config with terminalEnabled := terminal, overlayEnabled := overlay }
    colors }

variable {surroundings : Surroundings} {request : ReportRequest} {format : OutputFormat}
  {plan : List (LevelFilter × Job)} {planned : LevelFilter × Job}

theorem counts_resultOf (surroundings : Surroundings) (format : OutputFormat)
    (planned : LevelFilter × Job) :
    (resultOf surroundings format planned).counts =
      Counts.tally (passed surroundings.tree planned) := by
  rw [resultOf, Job.run, passed]
  cases planned.2.read surroundings.tree with
  | ok read => rfl
  | error error => rfl

theorem totalCounts_resultOf (surroundings : Surroundings) (format : OutputFormat)
    (plan : List (LevelFilter × Job)) :
    totalCounts (plan.map (resultOf surroundings format)) =
      passedCounts surroundings.tree plan := by
  rw [totalCounts, Counts.foldl_add_eq, passedCounts]
  simp only [List.map_map, Function.comp_def, counts_resultOf, Counts.tally, Nat.zero_add]

/-! ## The texts of one job -/

theorem consoleTexts_map_console (texts : List String) :
    consoleTexts (texts.map .console) = texts := by
  rw [consoleTexts, List.filterMap_map]
  exact List.filterMap_some

/-- What a job logs that does not fail, with the terminal switched on. -/
theorem textsOf_of_ok {read : JobRecords} (enabled : surroundings.config.terminalEnabled = true)
    (reads : planned.2.read surroundings.tree = .ok read) :
    textsOf surroundings .terminal planned =
      (read.errors.map (Job.notificationLine surroundings.colors) ++
        (planned.1.apply read.records).map
          (block surroundings.colors (some planned.2.checker))) ++
      [(Summary.compose planned.2.checker.name
        (Counts.tally (planned.1.apply read.records))).display surroundings.colors] := by
  have lines : (read.errors.map fun error =>
      WorkerMessage.console (Job.notificationLine surroundings.colors error)) =
        (read.errors.map (Job.notificationLine surroundings.colors)).map .console := by
    rw [List.map_map]
    rfl
  rw [textsOf, resultOf, Job.run, reads]
  simp only [Job.post, enabled, if_true]
  rw [lines, consoleTexts_append, consoleTexts_map_console, consoleTexts_map_console,
    Job.terminalTexts, List.append_assoc]

/-- **A job logs as many blocks with the label of a level as it lets records of
this level through.** Nothing else that it logs has a label. -/
theorem countP_isLabelled_textsOf (enabled : surroundings.config.terminalEnabled = true)
    (planned : LevelFilter × Job) (level : Level) :
    (textsOf surroundings .terminal planned).countP
        (isLabelled surroundings.colors planned.2.checker level) =
      (passed surroundings.tree planned).countP fun record => record.level == some level := by
  cases reads : planned.2.read surroundings.tree with
  | error error =>
      rw [textsOf, resultOf_of_error reads, passed, reads]
      have unlabelled :=
        @Job.isLabelled_failureLine surroundings.colors planned.2.checker level error
      simp [consoleTexts, unlabelled]
  | ok read =>
      have summary := @Job.isLabelled_summary surroundings.colors planned.2.checker level
        planned.2.checker.name (Counts.tally (planned.1.apply read.records))
      rw [textsOf_of_ok enabled reads, List.countP_append, List.countP_append,
        Job.countP_isLabelled_notificationLines, Job.countP_isLabelled_blocks,
        List.countP_singleton, summary, passed, reads, Nat.zero_add]
      rfl

/-! ## The whole report -/

/-- What a report counts is what its jobs let through, what they show, and what
it exits with. -/
structure CountsAgree (surroundings : Surroundings) (request : ReportRequest)
    (plan : List (LevelFilter × Job)) (outcome : ReportOutcome) : Prop where
  /-- All jobs together let so many errors and warnings through. -/
  counts_eq : outcome.counts = passedCounts surroundings.tree plan
  /-- The last text of a job that does not fail is a summary. It is seen as it was composed,
  with the numbers of the job's blocks that are labelled as errors and as warnings. -/
  summary : request.format = .terminal → surroundings.config.terminalEnabled = true →
    ∀ planned ∈ plan, ∀ read, planned.2.read surroundings.tree = .ok read →
      ∃ (texts : List String) (last : String) (summary : Summary),
        textsOf surroundings request.format planned = texts ++ [last] ∧
        last = summary.display surroundings.colors ∧
        Text.strip last = summary.text ∧
        numbersIn (Text.strip last).toList =
          [texts.countP (isLabelled surroundings.colors planned.2.checker .error),
            texts.countP (isLabelled surroundings.colors planned.2.checker .warning)]
  /-- The labels of all jobs add up to the counts. -/
  labels : request.format = .terminal → surroundings.config.terminalEnabled = true →
    outcome.counts =
      ⟨(plan.map fun planned => (textsOf surroundings request.format planned).countP
          (isLabelled surroundings.colors planned.2.checker .error)).sum,
        (plan.map fun planned => (textsOf surroundings request.format planned).countP
          (isLabelled surroundings.colors planned.2.checker .warning)).sum⟩
  /-- Errors are found if and only if some record at level error passes the
  filter of its job. -/
  foundErrors_iff : outcome.foundErrors = true ↔
    ∃ planned ∈ plan, ∃ read, planned.2.read surroundings.tree = .ok read ∧
      ∃ record ∈ read.records, planned.1.allows record = true ∧ record.level = some .error

theorem mem_passed {record : Record} :
    record ∈ passed surroundings.tree planned ↔
      ∃ read, planned.2.read surroundings.tree = .ok read ∧ record ∈ read.records ∧
        planned.1.allows record = true := by
  rw [passed]
  cases planned.2.read surroundings.tree with
  | ok read =>
      simp only [LevelFilter.apply, List.mem_filter]
      constructor
      · intro both
        exact ⟨read, rfl, both⟩
      · rintro ⟨_, same, both⟩
        cases same
        exact both
  | error error => simp

/-- Some error is counted if and only if some error is let through. -/
theorem errors_passedCounts_pos_iff (tree : FileTree) :
    (passedCounts tree plan).errors > 0 ↔
      ∃ planned ∈ plan, ∃ record ∈ passed tree planned, record.level = some .error := by
  rw [passedCounts, gt_iff_lt, Nat.pos_iff_ne_zero, ne_eq, List.sum_eq_zero_iff]
  simp only [List.mem_map, not_forall]
  constructor
  · rintro ⟨_, ⟨planned, member, rfl⟩, some_error⟩
    obtain ⟨record, passes, isError⟩ :=
      List.countP_pos_iff.mp (Nat.pos_of_ne_zero some_error)
    exact ⟨planned, member, record, passes, beq_iff_eq.mp isError⟩
  · rintro ⟨planned, member, record, passes, isError⟩
    refine ⟨_, ⟨planned, member, rfl⟩, Nat.pos_iff_ne_zero.mp ?_⟩
    exact List.countP_pos_iff.mpr ⟨record, passes, beq_iff_eq.mpr isError⟩

/-- A report agrees with itself if it counts what its jobs let through. -/
theorem CountsAgree.of_counts {outcome : ReportOutcome}
    (counts_eq : outcome.counts = passedCounts surroundings.tree plan) :
    CountsAgree surroundings request plan outcome where
  counts_eq := counts_eq
  summary := by
    intro format enabled planned _ read reads
    rw [format, textsOf_of_ok enabled reads]
    have seen := Summary.strip_display planned.2.checker
      (Counts.tally (planned.1.apply read.records)) surroundings.colors
    refine ⟨_, _, _, rfl, rfl, seen, ?_⟩
    rw [seen, Summary.numbersIn_compose, List.countP_append, List.countP_append,
      Job.countP_isLabelled_notificationLines, Job.countP_isLabelled_notificationLines,
      Job.countP_isLabelled_blocks, Job.countP_isLabelled_blocks, Nat.zero_add, Nat.zero_add]
    rfl
  labels := by
    intro format enabled
    rw [counts_eq, passedCounts, format]
    simp only [countP_isLabelled_textsOf enabled]
    rfl
  foundErrors_iff := by
    rw [ReportOutcome.foundErrors, decide_eq_true_eq, counts_eq, errors_passedCounts_pos_iff]
    simp only [mem_passed]
    constructor
    · rintro ⟨planned, member, record, ⟨read, reads, isRead, passes⟩, isError⟩
      exact ⟨planned, member, read, reads, record, isRead, passes, isError⟩
    · rintro ⟨planned, member, read, reads, record, isRead, passes, isError⟩
      exact ⟨planned, member, record, ⟨read, reads, isRead, passes⟩, isError⟩

/-- A report without jobs has no plan to carry out. -/
theorem plan_eq_nil (accepted : request.plan surroundings.config = .ok plan)
    (nothingAsked : request.jobs = []) : plan = [] := by
  have jobs := ReportRequest.map_snd_plan accepted
  rw [nothingAsked] at jobs
  exact List.map_eq_nil_iff.mp jobs

theorem execute_counts (accepted : request.plan surroundings.config = .ok plan) (writer : Writer) :
    ∃ written outcome, execute surroundings request writer = .ok (written, outcome) ∧
      outcome.counts = passedCounts surroundings.tree plan := by
  by_cases asked : request.jobs = []
  · refine ⟨writer.print (noJobsLine surroundings.colors), {}, ?_, ?_⟩
    · rw [execute, asked]
      rfl
    · rw [plan_eq_nil accepted asked]
      rfl
  · exact ⟨_, _, execute_eq asked accepted writer,
      totalCounts_resultOf surroundings request.format plan⟩

theorem Completes.counts {writer : Writer} {final : State}
    (completes : Completes surroundings format plan writer final) :
    final.outcome.2.counts = passedCounts surroundings.tree plan := by
  rw [completes.invariant.outcome_eq completes.finished]
  exact totalCounts_resultOf surroundings format plan

/-- **What a report shows, counts and exits with agree**: after the jobs one
after another, after every interleaving of them, and with the same counts in
either format and whatever is switched on. -/
theorem counts_agree (accepted : request.plan surroundings.config = .ok plan) :
    (∀ writer, ∃ written outcome, execute surroundings request writer = .ok (written, outcome) ∧
      CountsAgree surroundings request plan outcome) ∧
    (∀ writer final, Completes surroundings request.format plan writer final →
      CountsAgree surroundings request plan final.outcome.2 ∧
      ∀ index planned, plan[index]? = some planned →
        consoleTexts (messagesFrom index final.arrived) =
          textsOf surroundings request.format planned) ∧
    ∀ format terminal overlay colors writer, ∃ written outcome,
      execute (switched surroundings terminal overlay colors) { request with format } writer =
        .ok (written, outcome) ∧
      outcome.counts = passedCounts surroundings.tree plan := by
  refine ⟨?_, ?_, ?_⟩
  · intro writer
    obtain ⟨written, outcome, executed, counts⟩ := execute_counts accepted writer
    exact ⟨written, outcome, executed, .of_counts counts⟩
  · intro writer final completes
    refine ⟨.of_counts completes.counts, ?_⟩
    intro index planned here
    rw [completes.isMerge index, messagesOf, List.getD_eq_getElem?_getD, List.getElem?_map,
      List.getElem?_map, here]
    rfl
  · intro format terminal overlay colors writer
    have sameLevels : ReportRequest.plan { request with format }
        (switched surroundings terminal overlay colors).config = .ok plan := accepted
    exact execute_counts sameLevels writer

/-- A dump with an error, a suggestion and a warning. -/
def threeLevels : Surroundings where
  tree := ⟨[(["a.json"], .file (Text.Utf8.encode
    "[[null,\"no\",1],[null,\"so\",2],[null,\"old\",0]]".toList))], []⟩
  config := .default
  colors := true

def oneDump : ReportRequest where
  typeScript := ["a.json"]

/-- The suggestion is shown and not counted. -/
theorem counts_of_threeLevels :
    oneDump.plan threeLevels.config =
        .ok [(⟨[.error, .warning, .suggestion, .message]⟩, ⟨.typeScript, "a.json"⟩)] ∧
      ∃ written outcome, execute threeLevels oneDump {} = .ok (written, outcome) ∧
        outcome.counts = ⟨1, 1⟩ ∧ outcome.foundErrors = true := by
  have accepted : oneDump.plan threeLevels.config =
      .ok [(⟨[.error, .warning, .suggestion, .message]⟩, ⟨.typeScript, "a.json"⟩)] := rfl
  obtain ⟨written, outcome, executed, agree⟩ := (counts_agree accepted).1 {}
  have counts := agree.counts_eq.trans (show passedCounts threeLevels.tree
    [(⟨[.error, .warning, .suggestion, .message]⟩, ⟨.typeScript, "a.json"⟩)] = ⟨1, 1⟩ by
      decide +kernel)
  refine ⟨accepted, written, outcome, executed, counts, ?_⟩
  rw [ReportOutcome.foundErrors, counts]
  rfl

end Report

end DiagnosticReport
