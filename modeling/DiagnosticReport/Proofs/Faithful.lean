import DiagnosticReport.Compiler
import DiagnosticReport.Console
import DiagnosticReport.LanguageServer
import DiagnosticReport.Linter
import DiagnosticReport.Proofs.Json.Field

/-!
# Structures that are written and read back

One theorem for each structure that has a form in JSON: its reader and its
writer fit together (`Json.Faithful`). Two kinds of structures are written
differently. The diagnostics of the engines have all their fields, with `null`
for an absent value. Records and payloads leave an absent value out, and the
names that are left still differ.

Chains of messages are not among them. They are read back only if there is room
for their depth.
-/

set_option autoImplicit false

namespace DiagnosticReport

open Json

/-! ## Constants and places -/

theorem Level.faithful : Faithful Level.ofJson? Level.toJson where
  reads level := by cases level <;> simp [ofJson?, toJson, constant?, ofName?, all, name]
  plain level := .string level.name
  notNull level := by simp [toJson]

theorem Checker.faithful : Faithful Checker.ofJson? Checker.toJson where
  reads checker := by cases checker <;> simp [ofJson?, toJson, constant?, ofName?, all, name]
  plain checker := .string checker.name
  notNull checker := by simp [toJson]

theorem Position.faithful : Faithful Position.ofJson? Position.toJson where
  reads position := by
    rw [ofJson?, toJson, members?_record _ (by simp)]
    simp [required, List.lookup_cons]
  plain position := .record (by simp [Plain.integer])
  notNull _ := record_ne_null _

theorem Location.faithful : Faithful Location.ofJson? Location.toJson where
  reads location := by
    rw [ofJson?, toJson, members?_record _ (by simp)]
    simp [required, List.lookup_cons, Position.faithful.reads]
  plain location := .record (by simp [Position.faithful.plain])
  notNull _ := record_ne_null _

theorem EnginePosition.faithful : Faithful EnginePosition.ofJson? EnginePosition.toJson where
  reads position := by
    rw [ofJson?, toJson, members?_record _ (by simp)]
    simp [required, List.lookup_cons]
  plain position := .record (by simp [Plain.integer])
  notNull _ := record_ne_null _

theorem EngineRange.faithful : Faithful EngineRange.ofJson? EngineRange.toJson where
  reads range := by
    rw [ofJson?, toJson, members?_record _ (by simp)]
    simp [required, List.lookup_cons, EnginePosition.faithful.reads]
  plain range := .record (by simp [EnginePosition.faithful.plain])
  notNull _ := record_ne_null _

/-! ## Diagnostics of the engines -/

theorem LintMessage.faithful : Faithful LintMessage.ofJson? LintMessage.toJson where
  reads message := by
    rw [ofJson?, toJson, members?_record _ (by simp)]
    simp [required, defaulted, optional_eq_optionalOf, List.lookup_cons,
      faithful_string.optionalOf_ofOption, faithful_int64.optionalOf_ofOption]
  plain message := .record (by
    simp [Plain.string, Plain.integer, faithful_string.plain_ofOption,
      faithful_int64.plain_ofOption])
  notNull _ := record_ne_null _

theorem LintResult.faithful : Faithful LintResult.ofJson? LintResult.toJson where
  reads result := by
    rw [ofJson?, toJson, members?_record _ (by simp)]
    simp [required, defaulted, optional_eq_optionalOf, List.lookup_cons,
      faithful_string.optionalOf_ofOption, LintMessage.faithful.list.reads result.messages]
  plain result := .record (by
    simp [Plain.string, Plain.integer, faithful_string.plain_ofOption,
      LintMessage.faithful.list.plain result.messages])
  notNull _ := record_ne_null _

theorem ServerDiagnostic.faithful :
    Faithful ServerDiagnostic.ofJson? ServerDiagnostic.toJson where
  reads diagnostic := by
    rw [ofJson?, toJson, members?_record _ (by simp)]
    simp [required, optional_eq_optionalOf, List.lookup_cons, EngineRange.faithful.reads,
      faithful_int64.optionalOf_ofOption]
  plain diagnostic := .record (by
    simp [Plain.string, EngineRange.faithful.plain, faithful_int64.plain_ofOption])
  notNull _ := record_ne_null _

theorem Notification.faithful : Faithful Notification.ofJson? Notification.toJson where
  reads notification := by
    rw [ofJson?, toJson, members?_record _ (by simp)]
    simp [required, defaulted, List.lookup_cons,
      ServerDiagnostic.faithful.list.reads notification.diagnostics]
  plain notification := .record (by
    simp [Plain.string, ServerDiagnostic.faithful.list.plain notification.diagnostics])
  notNull _ := record_ne_null _

theorem SourceFile.faithful : Faithful SourceFile.ofJson? SourceFile.toJson where
  reads file := by
    rw [ofJson?, toJson, members?_record _ (by simp)]
    simp [required, defaulted, List.lookup_cons]
  plain file := .record (by simp [Plain.string])
  notNull _ := record_ne_null _

/-! ## Records -/

/-- A text is not a list, so the two forms of a stack are told apart. -/
theorem Stack.faithful : Faithful Stack.ofJson? Stack.toJson where
  reads stack := by
    cases stack with
    | text value => rfl
    | frames values =>
        rw [toJson, ofJson?, faithful_string.list.reads values]
        · rfl
        · simp
  plain stack := by
    cases stack with
    | text value => exact .string value
    | frames values => exact faithful_string.list.plain values
  notNull stack := by cases stack <;> simp [toJson]

theorem Record.faithful : Faithful Record.ofJson? Record.toJson where
  reads record := by
    rw [ofJson?, toJson, members?_record]
    · simp [required, defaulted, optional_eq_optionalOf, List.lookup_cons, List.lookup_append,
        faithful_string.optionalOf_map, Stack.faithful.optionalOf_map, Checker.faithful.reads,
        Location.faithful.optionalOf_map, Level.faithful.optionalOf_map]
    · have names : fieldNames.Nodup := by simp [fieldNames]
      refine names.sublist ?_
      simp only [List.map_append, List.append_assoc]
      exact (map_fst_present_sublist ..).append <| (List.Sublist.refl ["conclusion"]).append <|
        (map_fst_present_sublist ..).append <| (map_fst_present_sublist ..).append <|
        (List.Sublist.refl ["checker"]).append <| (map_fst_present_sublist ..).append <|
        (map_fst_present_sublist ..).append <| (map_fst_present_sublist ..).append <|
        map_fst_present_sublist ..
  plain record := by
    refine .record ?_
    simp only [List.forall_mem_append, and_assoc]
    exact ⟨fun _ => faithful_string.plain_of_mem_present, by simp [Plain.string],
      fun _ => Stack.faithful.plain_of_mem_present,
      fun _ => faithful_string.plain_of_mem_present, by simp [Checker.faithful.plain],
      fun _ => faithful_string.plain_of_mem_present,
      fun _ => faithful_string.plain_of_mem_present,
      fun _ => Location.faithful.plain_of_mem_present,
      fun _ => Level.faithful.plain_of_mem_present⟩
  notNull _ := record_ne_null _

/-! ## Payloads and envelopes -/

theorem PayloadLocation.faithful : Faithful PayloadLocation.ofJson? PayloadLocation.toJson where
  reads location := by
    rw [ofJson?, toJson, members?_record _ (by simp)]
    simp [required, List.lookup_cons]
  plain location := .record (by simp [Plain.string, Plain.integer])
  notNull _ := record_ne_null _

theorem Payload.faithful : Faithful Payload.ofJson? Payload.toJson where
  reads payload := by
    rw [ofJson?, toJson, members?_record]
    · simp [required, optional_eq_optionalOf, List.lookup_cons, List.lookup_append,
        faithful_string.optionalOf_map, Checker.faithful.reads, Level.faithful.optionalOf_map,
        PayloadLocation.faithful.optionalOf_map]
    · have names : ["message", "stack", "id", "frame", "checkerId", "level", "loc"].Nodup := by
        simp
      refine names.sublist ?_
      simp only [List.map_append, List.append_assoc]
      exact (List.Sublist.refl ["message", "stack"]).append <|
        (map_fst_present_sublist ..).append <| (map_fst_present_sublist ..).append <|
        (List.Sublist.refl ["checkerId"]).append <| (map_fst_present_sublist ..).append <|
        map_fst_present_sublist ..
  plain payload := by
    refine .record ?_
    simp only [List.forall_mem_append, and_assoc]
    exact ⟨by simp [Plain.string], fun _ => faithful_string.plain_of_mem_present,
      fun _ => faithful_string.plain_of_mem_present, by simp [Checker.faithful.plain],
      fun _ => Level.faithful.plain_of_mem_present,
      fun _ => PayloadLocation.faithful.plain_of_mem_present⟩
  notNull _ := record_ne_null _

theorem Delivery.faithful : Faithful Delivery.ofJson? Delivery.toJson where
  reads delivery := by
    rw [ofJson?, toJson, members?_record _ (by simp)]
    simp [required, List.lookup_cons, Checker.faithful.reads,
      Payload.faithful.list.reads delivery.payloads]
  plain delivery := .record (by
    simp [Checker.faithful.plain, Payload.faithful.list.plain delivery.payloads])
  notNull _ := record_ne_null _

theorem Envelope.faithful : Faithful Envelope.ofJson? Envelope.toJson where
  reads envelope := by
    rw [ofJson?, toJson, members?_record _ (by simp)]
    simp [required, List.lookup_cons, Delivery.faithful.reads]
  plain envelope := .record (by simp [Plain.string, Delivery.faithful.plain])
  notNull _ := record_ne_null _

/-- The tag is written in front of its payload, so the payload is read directly. -/
theorem WorkerMessage.faithful : Faithful WorkerMessage.ofJson? WorkerMessage.toJson where
  reads message := by
    cases message with
    | console text =>
        rw [toJson, ofJson?, members?_record _ (by simp)]
        simp [required, List.lookup_cons, constant?, record, tagComesFirst, ofParts?]
    | overlay envelope =>
        rw [toJson, ofJson?, members?_record _ (by simp)]
        simp [required, List.lookup_cons, constant?, record, tagComesFirst, ofParts?,
          Envelope.faithful.reads]
  plain message := by
    cases message with
    | console text => exact .record (by simp [Plain.string])
    | overlay envelope => exact .record (by simp [Plain.string, Envelope.faithful.plain])
  notNull message := by cases message <;> exact record_ne_null _

end DiagnosticReport
