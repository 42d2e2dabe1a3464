import DiagnosticReport.Proofs.Report.Counting

/-!
# Both outputs describe the same diagnostics

Here a dump is seen as a list of raw diagnostics: in the order of its files and
lists, with what the checker knows of each, before any record is made
(`Job.rawDiagnostics?`). Every raw diagnostic has a level of its own, and each
checker makes a record of it that keeps the level, carries the tag of the
checker, and has a plain frame that is the decorated one without its escape
sequences (`RawDiagnostic.Describes`).

A job lets those pass whose level its filter lists. The blocks of the terminal
and the payloads of the overlay are both made of their records, one for each
and in the same order (`outputs_agree`).
-/

set_option autoImplicit false

namespace DiagnosticReport

/-- A diagnostic of a dump, with what its checker makes a record of. -/
inductive RawDiagnostic where
  | compiler (diagnostic : CompilerDiagnostic)
  /-- A diagnostic of the type checker for single-file components. -/
  | component (diagnostic : CompilerDiagnostic)
  /-- A message about a file with this path and source. -/
  | lint (path source : String) (message : LintMessage)
  /-- A diagnostic of the document with this path and text. -/
  | server (path text : String) (diagnostic : ServerDiagnostic)

namespace RawDiagnostic

/-- The level of a diagnostic. -/
def level : RawDiagnostic → Level
  | .compiler diagnostic => (Level.ofOrdinal? diagnostic.category.toInt).getD .error
  | .component diagnostic => (Level.ofOrdinal? diagnostic.category.toInt).getD .error
  | .lint _ _ message => if message.severity = 1 then .warning else .error
  | .server _ _ diagnostic => ServerDiagnostic.levelOf diagnostic.severity

/-- The record of a diagnostic. -/
def record? : RawDiagnostic → Option Record
  | .compiler diagnostic => some diagnostic.normalize
  | .component diagnostic => some diagnostic.normalizeComponent
  | .lint path source message => message.normalize? path source
  | .server path text diagnostic => some (diagnostic.normalize path text)

/-- The messages about a file whose rules are not off. -/
def ofLintResult (result : LintResult) : List RawDiagnostic :=
  (result.messages.filter fun message => message.severity != 0).map
    (.lint result.filePath (result.source.getD ""))

/-- The diagnostics of a document; none if its URI stands for no file or it
cannot be read. -/
def ofNotification (tree : FileTree) (notification : Notification) : List RawDiagnostic :=
  match Notification.documentPath notification.uri with
  | .error _ => []
  | .ok path =>
      match tree.readBytesPath path with
      | .error _ => []
      | .ok text => notification.diagnostics.map (.server (Notification.showPath path) text)

/-- The diagnostics of a dump of this checker. -/
def ofJson? (tree : FileTree) (value : Json) : Checker → Option (List RawDiagnostic)
  | .typeScript => (CompilerDiagnostic.listOfJson? Json.nestingLimit value).map (·.map .compiler)
  | .vueTsc => (CompilerDiagnostic.listOfJson? Json.nestingLimit value).map (·.map .component)
  | .esLint => (value.list? LintResult.ofJson?).map (·.flatMap ofLintResult)
  | .vls => (Notification.dumpOfJson? value).map (·.flatMap (ofNotification tree))

/-- What a checker makes of one of its diagnostics: a record with the tag of the
checker and the level of the diagnostic, whose plain frame is the decorated one
without escape sequences. -/
structure Describes (checker : Checker) (record : Record) (raw : RawDiagnostic) : Prop where
  made : raw.record? = some record
  checker_eq : record.checker = checker
  level_eq : record.level = some raw.level
  plainFrame_eq : record.plainFrame =
    record.codeFrame.map fun frame => String.ofList (Text.stripEscapes frame.toList)

/-- A block of the terminal and a payload of the overlay are made of the record
that describes a diagnostic. The block prints the code frame of the record, if
there is one, and the payload holds it without escape sequences. -/
structure Projects (colors : Bool) (checker : Checker) (raw : RawDiagnostic) (block : String)
    (payload : Payload) : Prop where
  exists_record : ∃ record, Describes checker record raw ∧
    block = Terminal.block colors (some checker) record ∧ payload = Payload.ofRecord record ∧
    (∀ frame, record.codeFrame = some frame → frame.toList <:+: block.toList) ∧
    payload.frame =
      record.codeFrame.map fun frame => String.ofList (Text.stripEscapes frame.toList)
  checker_eq : payload.checker = checker

/-- Blocks and payloads are made of the records of these diagnostics, one each
and in their order. -/
structure ProjectsAll (colors : Bool) (checker : Checker) (raw : List RawDiagnostic)
    (blocks : List String) (payloads : List Payload) : Prop where
  length_blocks : blocks.length = raw.length
  length_payloads : payloads.length = raw.length
  projects : ∀ (index : Nat) diagnostic, raw[index]? = some diagnostic →
    ∃ block payload, blocks[index]? = some block ∧ payloads[index]? = some payload ∧
      Projects colors checker diagnostic block payload

/-! ## Projections of records -/

section

variable {colors : Bool} {checker : Checker} {record : Record} {records : List Record}
  {diagnostic : RawDiagnostic} {raw : List RawDiagnostic}

theorem Describes.projects (describes : Describes checker record diagnostic) :
    Projects colors checker diagnostic (Terminal.block colors (some checker) record)
      (Payload.ofRecord record) where
  exists_record :=
    ⟨record, describes, rfl, rfl, fun _ => Terminal.frame_infix_block, describes.plainFrame_eq⟩
  checker_eq := describes.checker_eq

theorem ProjectsAll.of_describe (describe : List.Forall₂ (Describes checker) records raw) :
    ProjectsAll colors checker raw (records.map (Terminal.block colors (some checker)))
      (records.map Payload.ofRecord) where
  length_blocks := by rw [List.length_map, describe.length_eq]
  length_payloads := by rw [List.length_map, describe.length_eq]
  projects := by
    intro index diagnostic here
    obtain ⟨inRaw, isDiagnostic⟩ := List.getElem?_eq_some_iff.mp here
    have inRecords : index < records.length := by rw [describe.length_eq]; exact inRaw
    have describes := describe.get inRecords inRaw
    rw [List.get_eq_getElem, List.get_eq_getElem, isDiagnostic] at describes
    refine ⟨_, _, ?_, ?_, describes.projects⟩
    · rw [List.getElem?_map, List.getElem?_eq_getElem inRecords, Option.map_some]
    · rw [List.getElem?_map, List.getElem?_eq_getElem inRecords, Option.map_some]

end

/-! ## One diagnostic of each checker -/

/-- The stripped form of a frame is the decorated one without its sequences. -/
theorem stripped_render (source : String) (location : Location) :
    (CodeFrame.render source location).stripped =
      String.ofList (Text.stripEscapes (CodeFrame.render source location).decorated.toList) := by
  rw [CodeFrame.render, String.toList_ofList]

theorem describes_compiler (diagnostic : CompilerDiagnostic) :
    Describes .typeScript diagnostic.normalize (.compiler diagnostic) where
  made := rfl
  checker_eq := rfl
  level_eq := rfl
  plainFrame_eq := by
    rw [CompilerDiagnostic.normalize]
    cases diagnostic.place? with
    | none => rfl
    | some place => exact congrArg some (stripped_render place.1 place.2)

/-- The other type checker only puts its tag on the record. -/
theorem describes_component (diagnostic : CompilerDiagnostic) :
    Describes .vueTsc diagnostic.normalizeComponent (.component diagnostic) where
  made := rfl
  checker_eq := rfl
  level_eq := rfl
  plainFrame_eq := (describes_compiler diagnostic).plainFrame_eq

/-- A message has a record unless its rule is off. -/
theorem describes_lint (path source : String) {message : LintMessage}
    (reported : message.severity ≠ 0) :
    ∃ record, message.normalize? path source = some record ∧
      Describes .esLint record (.lint path source message) := by
  have leveled : message.level? = some (level (.lint path source message)) := by
    rw [LintMessage.level?, if_neg reported, level]
    split <;> rfl
  cases made : message.normalize? path source with
  | none =>
      rw [LintMessage.normalize?, leveled] at made
      cases made
  | some record =>
      have same := made
      rw [LintMessage.normalize?, leveled] at same
      obtain rfl := Option.some.inj same
      exact ⟨_, rfl, made, rfl, rfl, congrArg some (stripped_render source message.location)⟩

theorem describes_server (path text : String) (diagnostic : ServerDiagnostic) :
    Describes .vls (diagnostic.normalize path text) (.server path text diagnostic) where
  made := rfl
  checker_eq := rfl
  level_eq := rfl
  plainFrame_eq := congrArg some (stripped_render text diagnostic.range.toLocation)

/-! ## Whole dumps -/

theorem forall₂_describes_lint (path source : String) (messages : List LintMessage) :
    List.Forall₂ (Describes .esLint) (messages.filterMap (LintMessage.normalize? path source))
      ((messages.filter fun message => message.severity != 0).map (.lint path source)) := by
  induction messages with
  | nil => exact .nil
  | cons message messages ih =>
      by_cases off : message.severity = 0
      · have dropped : message.normalize? path source = none := by
          rw [LintMessage.normalize?, LintMessage.level?, if_pos off]
          rfl
        rw [List.filterMap_cons_none dropped, List.filter_cons_of_neg (by simp [off])]
        exact ih
      · obtain ⟨record, made, describes⟩ := describes_lint path source off
        rw [List.filterMap_cons_some made, List.filter_cons_of_pos (by simp [off]), List.map_cons]
        exact .cons describes ih

theorem forall₂_describes_results (results : List LintResult) :
    List.Forall₂ (Describes .esLint) (LintResult.normalizeAll results)
      (results.flatMap ofLintResult) := by
  induction results with
  | nil => exact .nil
  | cons result results ih =>
      rw [LintResult.normalizeAll, List.flatMap_cons, List.flatMap_cons]
      exact List.rel_append (forall₂_describes_lint _ _ result.messages) ih

theorem forall₂_describes_notifications (tree : FileTree) (notifications : List Notification) :
    List.Forall₂ (Describes .vls) (Job.ofNotifications tree notifications).records
      (notifications.flatMap (ofNotification tree)) := by
  induction notifications with
  | nil => exact .nil
  | cons notification notifications ih =>
      unfold Job.ofNotifications
      rw [List.flatMap_cons, ofNotification, Notification.normalize]
      cases Notification.documentPath notification.uri with
      | error error => exact ih
      | ok path =>
          cases found : tree.readBytesPath path with
          | error cause =>
              simp only [bind, Except.bind, found]
              exact ih
          | ok text =>
              simp only [bind, Except.bind, found]
              refine List.rel_append ?_ ih
              rw [List.forall₂_map_left_iff, List.forall₂_map_right_iff, List.forall₂_same]
              exact fun diagnostic _ => describes_server _ text diagnostic

/-- A dump that has records has raw diagnostics, and the records describe these
one by one. -/
theorem exists_raw_of_recordsOfJson? {tree : FileTree} {value : Json} {checker : Checker}
    {read : JobRecords} (reads : Job.recordsOfJson? tree value checker = some read) :
    ∃ raw, ofJson? tree value checker = some raw ∧
      List.Forall₂ (Describes checker) read.records raw := by
  cases checker with
  | typeScript =>
      obtain ⟨diagnostics, parsed, rfl⟩ := Option.map_eq_some_iff.mp reads
      refine ⟨_, by rw [ofJson?, parsed, Option.map_some], ?_⟩
      rw [List.forall₂_map_left_iff, List.forall₂_map_right_iff, List.forall₂_same]
      exact fun diagnostic _ => describes_compiler diagnostic
  | vueTsc =>
      obtain ⟨diagnostics, parsed, rfl⟩ := Option.map_eq_some_iff.mp reads
      refine ⟨_, by rw [ofJson?, parsed, Option.map_some], ?_⟩
      rw [List.forall₂_map_left_iff, List.forall₂_map_right_iff, List.forall₂_same]
      exact fun diagnostic _ => describes_component diagnostic
  | esLint =>
      obtain ⟨results, parsed, rfl⟩ := Option.map_eq_some_iff.mp reads
      exact ⟨_, by rw [ofJson?, parsed, Option.map_some], forall₂_describes_results results⟩
  | vls =>
      obtain ⟨notifications, parsed, rfl⟩ := Option.map_eq_some_iff.mp reads
      exact ⟨_, by rw [ofJson?, parsed, Option.map_some],
        forall₂_describes_notifications tree notifications⟩

end RawDiagnostic

namespace Job

open RawDiagnostic

/-- The raw diagnostics of the dump of a job. -/
def rawDiagnostics? (tree : FileTree) (job : Job) : Option (List RawDiagnostic) := do
  let text ← (tree.readText job.input).toOption
  let value ← Json.ofText? text
  RawDiagnostic.ofJson? tree value job.checker

variable {surroundings : Surroundings} {tree : FileTree} {job : Job} {read : JobRecords}
  {filter : LevelFilter}

theorem exists_raw_of_read (reads : job.read tree = .ok read) :
    ∃ raw, job.rawDiagnostics? tree = some raw ∧
      List.Forall₂ (Describes job.checker) read.records raw := by
  rw [Job.read] at reads
  rw [rawDiagnostics?]
  cases text : tree.readText job.input with
  | error cause =>
      rw [text] at reads
      cases reads
  | ok contents =>
      rw [text] at reads
      cases parsed : Json.ofText? contents with
      | none =>
          simp only [parsed, Option.bind_none] at reads
          cases reads
      | some value =>
          simp only [parsed, Option.bind_some] at reads
          cases records : recordsOfJson? tree value job.checker with
          | none =>
              rw [records] at reads
              cases reads
          | some found =>
              rw [records] at reads
              cases reads
              obtain ⟨raw, isRaw, describe⟩ := exists_raw_of_recordsOfJson? records
              refine ⟨raw, ?_, describe⟩
              simp only [Except.toOption, Option.bind_eq_bind, Option.bind_some, parsed]
              exact isRaw

/-- A filter lets exactly those records through that describe diagnostics of its
levels. -/
theorem forall₂_describes_apply {checker : Checker} {records : List Record}
    {raw : List RawDiagnostic} (describe : List.Forall₂ (Describes checker) records raw)
    (filter : LevelFilter) :
    List.Forall₂ (Describes checker) (filter.apply records)
      (raw.filter fun diagnostic => filter.allowed.contains diagnostic.level) := by
  refine List.rel_filter (fun record diagnostic describes => ?_) describe
  simp only [LevelFilter.allows, describes.level_eq, Option.any_some]

/-- What a job posts that does not fail. -/
theorem messages_run {read : JobRecords} (format : OutputFormat) (filter : LevelFilter)
    (reads : job.read surroundings.tree = .ok read) :
    (job.run surroundings format filter).messages =
      (read.errors.map (notificationLine surroundings.colors)).map .console ++
        post surroundings format job.checker (filter.apply read.records) := by
  rw [run, reads, List.map_map]
  rfl

/-- **Both outputs describe the same diagnostics.** Of a job that does not fail,
the terminal gets one block for each diagnostic whose level passes, and a
summary, and the overlay gets one envelope with one payload for each; the block
and the payload at the same place are made of the same record. The lines about
notifications that stand before them are the same. -/
theorem outputs_agree {read : JobRecords} (filter : LevelFilter)
    (terminalOn : surroundings.config.terminalEnabled = true)
    (overlayOn : surroundings.config.overlayEnabled = true)
    (reads : job.read surroundings.tree = .ok read) :
    ∃ raw lines blocks summary envelope,
      job.rawDiagnostics? surroundings.tree = some raw ∧
      lines = read.errors.map (notificationLine surroundings.colors) ∧
      (job.run surroundings .terminal filter).messages =
        (lines ++ blocks ++ [summary]).map .console ∧
      summary = (Summary.compose job.checker.name
        (job.run surroundings .terminal filter).counts).display surroundings.colors ∧
      (job.run surroundings .overlay filter).messages =
        lines.map .console ++ [.overlay envelope] ∧
      envelope.delivery.checker = job.checker ∧
      ProjectsAll surroundings.colors job.checker
        (raw.filter fun diagnostic => filter.allowed.contains diagnostic.level)
        blocks envelope.delivery.payloads := by
  obtain ⟨raw, isRaw, describe⟩ := exists_raw_of_read reads
  refine ⟨raw, _, (filter.apply read.records).map
    (Terminal.block surroundings.colors (some job.checker)), _,
    .ofRecords job.checker (filter.apply read.records), isRaw, rfl, ?_, rfl, ?_, rfl,
    .of_describe (forall₂_describes_apply describe filter)⟩
  · rw [messages_run _ _ reads, post, if_pos terminalOn, terminalTexts, List.append_assoc,
      List.map_append, List.map_append, List.map_append, run, reads]
  · rw [messages_run _ _ reads, post, if_pos overlayOn]

/-- A dump of the linter with a message whose rule is off and an error. -/
def offAndError : Surroundings where
  tree := ⟨[(["b.json"], .file (Text.Utf8.encode
    "[[\"b.js\",[[null,0,\"off\"],[null,2,\"no\",1,1,1]],\"x\"]]".toList))], []⟩
  config := .default
  colors := false

/-- The error has the one block and the one payload. -/
theorem outputs_of_offAndError :
    ∃ block summary envelope payload,
      (run offAndError .terminal .all ⟨.esLint, "b.json"⟩).messages =
        [.console block, .console summary] ∧
      (run offAndError .overlay .all ⟨.esLint, "b.json"⟩).messages = [.overlay envelope] ∧
      envelope.delivery.payloads = [payload] ∧ payload.checker = .esLint := by
  have noErrors : (Job.read offAndError.tree ⟨.esLint, "b.json"⟩).toOption.map
      JobRecords.errors = some [] := by decide +kernel
  have onePasses : (rawDiagnostics? offAndError.tree ⟨.esLint, "b.json"⟩).map (fun raw =>
      (raw.filter fun diagnostic => LevelFilter.all.allowed.contains diagnostic.level).length) =
        some 1 := by decide +kernel
  cases reads : Job.read offAndError.tree ⟨.esLint, "b.json"⟩ with
  | error error =>
      rw [reads] at noErrors
      cases noErrors
  | ok read =>
      obtain ⟨raw, lines, blocks, summary, envelope, isRaw, isLines, terminal, -, overlay, -, all⟩ :=
        outputs_agree .all rfl rfl reads
      rw [reads, Except.toOption, Option.map_some] at noErrors
      rw [isRaw, Option.map_some] at onePasses
      rw [Option.some.inj noErrors, List.map_nil] at isLines
      have oneBlock := all.length_blocks.trans (Option.some.inj onePasses)
      have onePayload := all.length_payloads.trans (Option.some.inj onePasses)
      obtain ⟨block, rfl⟩ := List.length_eq_one_iff.mp oneBlock
      obtain ⟨payload, isPayload⟩ := List.length_eq_one_iff.mp onePayload
      have first := List.getElem?_eq_getElem (Nat.lt_of_lt_of_eq Nat.zero_lt_one
        (Option.some.inj onePasses).symm)
      obtain ⟨_, _, -, isFirst, projects⟩ := all.projects 0 _ first
      rw [isPayload] at isFirst
      obtain rfl := Option.some.inj isFirst
      rw [isLines] at terminal overlay
      exact ⟨block, summary, envelope, payload, terminal, overlay, isPayload, projects.checker_eq⟩

end Job

end DiagnosticReport
