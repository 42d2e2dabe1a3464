import DiagnosticReport.Proofs.Colors
import DiagnosticReport.Proofs.Faithful
import DiagnosticReport.Proofs.FileTree
import DiagnosticReport.Proofs.Json.Readable

/-!
# Notifications one by one

A dump of the language server holds one notification or a list of them, and
the two forms are not marked. A structure may be written as an array of its fields,
so an array is first tried as one notification. The first field is the URI, and an
object is no URI, so an array of objects is always a list (`ofJson?_array_objects`).

Each notification of a list comes to records or to an error by itself
(`Notification.Settles`), and what a job makes of the list is made of these outcomes in
the order of the list: the errors, one line each, and behind them what is posted for
the records (`Job.settles_one_by_one`).
-/

set_option autoImplicit false

namespace DiagnosticReport

namespace Notification

open Json

/-! ## One notification -/

/-- What a notification comes to. -/
inductive Settles (tree : FileTree) (notification : Notification) :
    Except NotificationError (List Record) → Prop
  /-- The document is read, and every diagnostic has a record. -/
  | records {path : List UInt8} {text : String}
      (resolves : Uri.filePath? notification.uri = some path)
      (read : tree.readBytesPath path = .ok text) :
      Settles tree notification
        (.ok (notification.diagnostics.map (ServerDiagnostic.normalize (showPath path) text)))
  /-- The URI stands for no file. -/
  | invalidUri (unresolved : Uri.filePath? notification.uri = none) :
      Settles tree notification (.error (.invalidUri notification.uri))
  /-- The document cannot be read. -/
  | unreadable {path : List UInt8} {cause : FileError}
      (resolves : Uri.filePath? notification.uri = some path)
      (fails : tree.readBytesPath path = .error cause) :
      Settles tree notification (.error (.unreadable (showPath path) cause))

theorem settles_normalize (tree : FileTree) (notification : Notification) :
    notification.Settles tree (notification.normalize tree) := by
  unfold normalize documentPath
  cases resolves : Uri.filePath? notification.uri with
  | none => exact .invalidUri resolves
  | some path =>
      cases read : tree.readBytesPath path with
      | ok text => simpa [bind, Except.bind, read] using Settles.records resolves read
      | error cause => simpa [bind, Except.bind, read] using Settles.unreadable resolves read

theorem Settles.eq_normalize {tree : FileTree} {notification : Notification}
    {outcome : Except NotificationError (List Record)}
    (settles : notification.Settles tree outcome) :
    outcome = notification.normalize tree := by
  cases settles with
  | records resolves read => simp [normalize, documentPath, resolves, bind, Except.bind, read]
  | invalidUri unresolved => simp [normalize, documentPath, unresolved, bind, Except.bind]
  | unreadable resolves fails => simp [normalize, documentPath, resolves, bind, Except.bind, fails]

/-! ## One or several in a dump -/

/-- An array of objects is not one notification, as the first of them would be its URI. -/
theorem ofJson?_array_objects (objects : List (List (Option String × Json))) :
    ofJson? (.array (objects.map .object)) = none := by
  have noUri : ∀ members, Json.members? ["uri", "diagnostics"] (.array (objects.map .object)) =
      some members → required string? "uri" members = none := by
    intro members read
    rw [members?] at read
    split at read
    · obtain rfl := Option.some.inj read
      cases objects with
      | nil => rfl
      | cons first others => rfl
    · cases read
  rw [ofJson?]
  cases read : Json.members? ["uri", "diagnostics"] (.array (objects.map .object)) with
  | none => rfl
  | some members =>
      rw [Option.bind_eq_bind, Option.bind_some, noUri members read]
      rfl

/-- The text is a list of objects, and these are the notifications. -/
def Lists (text : String) (notifications : List Notification) : Prop :=
  ∃ objects : List (List (Option String × Json)),
    Json.ofText? text = some (.array (objects.map .object)) ∧
      (Json.array (objects.map .object)).readable nestingLimit = true ∧
      (objects.map Json.object).mapM ofJson? = some notifications

/-- The text is an object, and this is the notification. -/
def Holds (text : String) (notification : Notification) : Prop :=
  ∃ members : List (Option String × Json),
    Json.ofText? text = some (.object members) ∧
      (Json.object members).readable nestingLimit = true ∧
      ofJson? (.object members) = some notification

theorem Lists.dumpOfJson? {text : String} {notifications : List Notification}
    (lists : Lists text notifications) :
    (Json.ofText? text).bind dumpOfJson? = some notifications := by
  obtain ⟨objects, spelled, readable, read⟩ := lists
  rw [spelled, Option.bind_some, Notification.dumpOfJson?, if_pos readable,
    ofJson?_array_objects]
  exact read

theorem Holds.dumpOfJson? {text : String} {notification : Notification}
    (holds : Holds text notification) :
    (Json.ofText? text).bind dumpOfJson? = some [notification] := by
  obtain ⟨members, spelled, readable, read⟩ := holds
  rw [spelled, Option.bind_some, Notification.dumpOfJson?, if_pos readable, read]

/-! ## The dump that is written -/

theorem readable_diagnostic {room : Nat} (diagnostic : ServerDiagnostic) :
    diagnostic.toJson.readable (room + 3) = true := by
  have position (position : EnginePosition) : position.toJson.readable (room + 1) = true := by
    simp [EnginePosition.toJson, readable_record_iff, readable_int64]
  have range : diagnostic.range.toJson.readable (room + 2) = true := by
    simp [EngineRange.toJson, readable_record_iff, position]
  have severity : (ofOption (fun severity => .int severity.toInt) diagnostic.severity).readable
      (room + 2) = true := by
    cases diagnostic.severity with
    | none => rfl
    | some severity => exact readable_int64 severity
  have message : (Json.string diagnostic.message).readable (room + 2) = true := rfl
  simp [ServerDiagnostic.toJson, readable_record_iff, range, severity, message]

theorem readable_toJson {room : Nat} (notification : Notification) :
    notification.toJson.readable (room + 5) = true := by
  have diagnostics : (Json.array (notification.diagnostics.map ServerDiagnostic.toJson)).readable
      (room + 4) = true := by
    simp [readable_array_iff, readable_diagnostic]
  have uri : (Json.string notification.uri).readable (room + 4) = true := rfl
  simp [toJson, readable_record_iff, uri, diagnostics]

theorem holds_written (notification : Notification) :
    Holds notification.toJson.compact notification :=
  ⟨_, Json.ofText?_compact (Notification.faithful.plain notification),
    readable_toJson notification, Notification.faithful.reads notification⟩

theorem lists_written (notifications : List Notification) :
    Lists (Json.array (notifications.map toJson)).compact notifications := by
  obtain ⟨objects, same⟩ : ∃ objects : List (List (Option String × Json)),
      objects.map .object = notifications.map toJson :=
    ⟨notifications.map fun notification =>
      [(some "uri", .string notification.uri),
        (some "diagnostics", .array (notification.diagnostics.map ServerDiagnostic.toJson))],
      by rw [List.map_map]; rfl⟩
  refine ⟨objects, ?_, ?_, ?_⟩
  · rw [same]
    exact Json.ofText?_compact (Notification.faithful.list.plain notifications)
  · rw [same, readable_array_iff]
    refine ⟨by decide, fun item member => ?_⟩
    obtain ⟨notification, -, rfl⟩ := List.mem_map.mp member
    exact readable_toJson notification
  · rw [same]
    exact Notification.faithful.list.reads notifications

end Notification

namespace Job

open Notification

/-- The errors among outcomes, in their order. -/
def errorsOf (outcomes : List (Except NotificationError (List Record))) :
    List NotificationError :=
  outcomes.filterMap fun
    | .ok _ => none
    | .error error => some error

/-- The records of outcomes, in their order. -/
def recordsOf (outcomes : List (Except NotificationError (List Record))) : List Record :=
  outcomes.flatMap fun
    | .ok records => records
    | .error _ => []

theorem ofNotifications_eq (tree : FileTree) (notifications : List Notification) :
    ofNotifications tree notifications =
      ⟨errorsOf (notifications.map (Notification.normalize tree)),
        recordsOf (notifications.map (Notification.normalize tree))⟩ := by
  induction notifications with
  | nil => rfl
  | cons notification notifications ih =>
      rw [ofNotifications, ih, List.map_cons]
      cases notification.normalize tree with
      | ok records => rfl
      | error error => rfl

/-- The outcomes are those of the notifications, one for each. -/
theorem forall₂_settles (tree : FileTree) (notifications : List Notification) :
    List.Forall₂ (Settles tree) notifications
      (notifications.map (Notification.normalize tree)) := by
  rw [List.forall₂_map_right_iff, List.forall₂_same]
  exact fun notification _ => notification.settles_normalize tree

theorem eq_map_of_forall₂_settles {tree : FileTree} {notifications : List Notification}
    {outcomes : List (Except NotificationError (List Record))}
    (settled : List.Forall₂ (Settles tree) notifications outcomes) :
    outcomes = notifications.map (Notification.normalize tree) := by
  induction settled with
  | nil => rfl
  | cons first _ ih => rw [List.map_cons, ← first.eq_normalize, ← ih]

/-- A job of the language server whose dump is a text. -/
structure HasServerDump (tree : FileTree) (text : String) (job : Job) : Prop where
  server : job.checker = .vls
  found : tree.readText job.input = .ok text

theorem HasServerDump.read_eq {tree : FileTree} {text : String} {job : Job}
    {notifications : List Notification} (dump : job.HasServerDump tree text)
    (held : (Json.ofText? text).bind dumpOfJson? = some notifications) :
    job.read tree = .ok (ofNotifications tree notifications) := by
  obtain ⟨value, spelled, held⟩ := Option.bind_eq_some_iff.mp held
  rw [read, dump.found, dump.server]
  simp [spelled, recordsOfJson?, held]

/-- Jobs of one checker that read the same do the same. -/
theorem run_congr {surroundings : Surroundings} {format : OutputFormat} {filter : LevelFilter}
    {job other : Job} {records : JobRecords} (sameChecker : job.checker = other.checker)
    (read : job.read surroundings.tree = .ok records)
    (otherRead : other.read surroundings.tree = .ok records) :
    job.run surroundings format filter = other.run surroundings format filter := by
  rw [run, run, read, otherRead, sameChecker]

/-- **Notifications are dealt with one by one.** A job on a list of notifications does
not fail. Every notification comes to its records or to an error; the records of the
list are those of its notifications, in order, and there is a line for each error, in
order and in front of all that is posted for the records. The line says that it is about
an error of the language server. A notification that
is not in a list is dealt with like a list of one, no list of objects is taken for
one notification, and what is written for notifications is such a dump of them. -/
theorem settles_one_by_one (surroundings : Surroundings) (format : OutputFormat)
    (filter : LevelFilter) :
    (∀ (job : Job) (text : String) (notifications : List Notification),
      job.HasServerDump surroundings.tree text → Lists text notifications →
        ∃ outcomes, List.Forall₂ (Settles surroundings.tree) notifications outcomes ∧
          job.read surroundings.tree = .ok ⟨errorsOf outcomes, recordsOf outcomes⟩ ∧
          job.run surroundings format filter =
            ⟨(errorsOf outcomes).map
                (fun error => .console (notificationLine surroundings.colors error)) ++
              post surroundings format .vls (filter.apply (recordsOf outcomes)),
              Counts.tally (filter.apply (recordsOf outcomes))⟩) ∧
    (∀ error, Text.strip (notificationLine surroundings.colors error) =
      "  lsp error: " ++ Text.strip error.message) ∧
    (∀ (bare listed : Job) (text list : String) (notification : Notification),
      bare.HasServerDump surroundings.tree text → Holds text notification →
      listed.HasServerDump surroundings.tree list → Lists list [notification] →
        bare.read surroundings.tree = listed.read surroundings.tree ∧
        bare.run surroundings format filter = listed.run surroundings format filter) ∧
    (∀ objects : List (List (Option String × Json)),
      Notification.ofJson? (.array (objects.map .object)) = none) ∧
    (∀ notifications : List Notification,
      Lists (Json.array (notifications.map Notification.toJson)).compact notifications) ∧
    ∀ notification : Notification, Holds notification.toJson.compact notification := by
  refine ⟨?_, strip_notificationLine surroundings.colors, ?_, ofJson?_array_objects,
    lists_written, holds_written⟩
  · intro job text notifications dump lists
    have read := dump.read_eq lists.dumpOfJson?
    rw [ofNotifications_eq] at read
    refine ⟨_, forall₂_settles surroundings.tree notifications, read, ?_⟩
    rw [run, read, dump.server]
  · intro bare listed text list notification dump holds listDump lists
    have read := dump.read_eq holds.dumpOfJson?
    have listRead := listDump.read_eq lists.dumpOfJson?
    exact ⟨read.trans listRead.symm,
      run_congr (dump.server.trans listDump.server.symm) read listRead⟩

/-- A diagnostic of a document that is there. -/
def knownDocument : Notification :=
  ⟨"file:///a.vue", [{ range := ⟨⟨0, 1⟩, ⟨0, 2⟩⟩, severity := some 2, message := " unused " }]⟩

/-- A text without a file, the document, and a document that is not there. -/
def mixedNotifications : List Notification :=
  [⟨"untitled:a.vue", []⟩, knownDocument, ⟨"file:///b.vue", []⟩]

/-- The document, and dumps of the three notifications and of the one about it. -/
def mixedTree : FileTree :=
  ⟨[(["a.vue"], .file (Text.Utf8.encode "<b/>".toList)),
    (["many.json"], .file (Text.Utf8.encode
      (Json.array (mixedNotifications.map Notification.toJson)).compact.toList)),
    (["one.json"], .file (Text.Utf8.encode
      (Json.array ([knownDocument].map Notification.toJson)).compact.toList)),
    (["bare.json"], .file (Text.Utf8.encode knownDocument.toJson.compact.toList))], []⟩

theorem settles_mixedNotifications :
    (Job.mk .vls "many.json").read mixedTree =
      .ok ⟨[.invalidUri "untitled:a.vue", .unreadable "/b.vue" .notFound],
        knownDocument.diagnostics.map (ServerDiagnostic.normalize "/a.vue" "<b/>")⟩ ∧
    (Job.mk .vls "bare.json").run ⟨mixedTree, .default, false⟩ .terminal .all =
      (Job.mk .vls "one.json").run ⟨mixedTree, .default, false⟩ .terminal .all := by
  obtain ⟨lists, -, bare, -, written, alone⟩ :=
    settles_one_by_one ⟨mixedTree, .default, false⟩ .terminal .all
  constructor
  · have noFile : Settles mixedTree ⟨"untitled:a.vue", []⟩
        (.error (.invalidUri "untitled:a.vue")) :=
      .invalidUri (by decide +kernel)
    have known : Settles mixedTree knownDocument (.ok (knownDocument.diagnostics.map
        (ServerDiagnostic.normalize (showPath (Text.Utf8.encode "/a.vue".toList)) "<b/>"))) :=
      .records (by decide +kernel) (by decide +kernel)
    have missing : Settles mixedTree ⟨"file:///b.vue", []⟩
        (.error (.unreadable (showPath (Text.Utf8.encode "/b.vue".toList)) .notFound)) :=
      .unreadable (by decide +kernel) (by decide +kernel)
    have shown : showPath (Text.Utf8.encode "/a.vue".toList) = "/a.vue" ∧
        showPath (Text.Utf8.encode "/b.vue".toList) = "/b.vue" := by decide +kernel
    obtain ⟨outcomes, settled, read, -⟩ := lists ⟨.vls, "many.json"⟩ _ mixedNotifications
      ⟨rfl, FileTree.readText_of_entryAt? rfl rfl⟩ (written mixedNotifications)
    have outcomes_eq := eq_map_of_forall₂_settles settled
    rw [mixedNotifications, List.map_cons, List.map_cons, List.map_singleton,
      ← noFile.eq_normalize, ← known.eq_normalize, ← missing.eq_normalize, shown.1, shown.2]
      at outcomes_eq
    rw [read, outcomes_eq]
    rfl
  · exact (bare ⟨.vls, "bare.json"⟩ ⟨.vls, "one.json"⟩ _ _ knownDocument
      ⟨rfl, FileTree.readText_of_entryAt? rfl rfl⟩ (alone knownDocument)
      ⟨rfl, FileTree.readText_of_entryAt? rfl rfl⟩ (written [knownDocument])).2

end Job

end DiagnosticReport
