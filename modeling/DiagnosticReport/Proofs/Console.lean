import DiagnosticReport.Proofs.Faithful
import DiagnosticReport.Proofs.Json.OneLine

/-!
# The stream of the main logger

An envelope that is delivered to the main logger becomes one line of JSON. The
line holds no line feed of its own, whatever texts the envelope holds, so the
lines of a stream are told apart again, and each of them is read as its envelope
(`deliver_stream`).
-/

set_option autoImplicit false

namespace DiagnosticReport

namespace Writer

/-- All that a writer has written. -/
def text (writer : Writer) : String := String.join writer.written

/-- The writer with more texts behind what it has written. -/
def extend (writer : Writer) (texts : List String) : Writer :=
  { writer with written := writer.written ++ texts }

theorem print_of_accepts {writer : Writer} (accepts : writer.refuses = false) (text : String) :
    writer.print text = writer.extend [text ++ "\n"] := by
  rw [print, if_neg (by simp [accepts]), extend]

theorem extend_extend (writer : Writer) (first second : List String) :
    (writer.extend first).extend second = writer.extend (first ++ second) := by
  simp [extend]

theorem text_extend (writer : Writer) (texts : List String) :
    (writer.extend texts).text = writer.text ++ String.join texts := String.join_append

end Writer

/-- Lines that hold no line feed are told apart in the text that has one behind each. -/
theorem splitOn_flatMap_lineFeed {lines : List (List Char)}
    (whole : ∀ line ∈ lines, '\n' ∉ line) :
    (lines.flatMap (· ++ ['\n'])).splitOn '\n' = lines ++ [[]] := by
  have joined : lines.flatMap (· ++ ['\n']) = ['\n'].intercalate (lines ++ [[]]) := by
    induction lines with
    | nil => rfl
    | cons line lines ih =>
        rw [List.flatMap_cons, ih fun other member => whole other (List.mem_cons_of_mem _ member)]
        cases lines <;> simp
  rw [joined]
  refine List.splitOn_intercalate '\n' ?_ (by simp)
  rw [List.forall_mem_append]
  exact ⟨whole, by simp⟩

namespace Envelope

/-- The line of an envelope. -/
def line (envelope : Envelope) : List Char := envelope.toJson.write

/-- The line with its line feed. -/
def printed (envelope : Envelope) : String := String.ofList envelope.line ++ "\n"

theorem lineFeed_notMem_line (envelope : Envelope) : '\n' ∉ envelope.line :=
  (Json.noControl_write _).lineFeed_notMem

/-- The line of an envelope is read as the envelope. -/
theorem ofJson?_line (envelope : Envelope) :
    (Json.ofText? (String.ofList envelope.line)).bind ofJson? = some envelope := by
  rw [line, ← Json.compact, Json.ofText?_compact (faithful.plain envelope), Option.bind_some]
  exact faithful.reads envelope

end Envelope

namespace Office

/-- The office after envelopes have been delivered to the main logger. -/
def deliverAll (office : Office) (envelopes : List Envelope) : Office :=
  envelopes.foldl (fun office envelope => office.deliver envelope .main) office

/-- Delivering envelopes adds their lines to the main writer and does nothing else. -/
theorem deliverAll_eq (office : Office) (accepts : office.mainWriter.refuses = false)
    (envelopes : List Envelope) :
    office.deliverAll envelopes =
      { office with mainWriter := office.mainWriter.extend (envelopes.map Envelope.printed) } := by
  induction envelopes generalizing office with
  | nil => simp [deliverAll, Writer.extend]
  | cons envelope envelopes ih =>
      have step : office.deliver envelope .main =
          { office with mainWriter := office.mainWriter.extend [envelope.printed] } := by
        rw [deliver, log, Writer.print_of_accepts accepts]
        rfl
      have later :=
        ih { office with mainWriter := office.mainWriter.extend [envelope.printed] } accepts
      rw [deliverAll, List.foldl_cons, ← deliverAll, step, later, Writer.extend_extend,
        List.singleton_append, List.map_cons]

/-- **The main logger writes a stream of lines.** Behind what was written before
stands one line for each envelope and nothing else, and each line is read as its
envelope. Nothing is posted and no other writer is touched. -/
theorem deliver_stream (office : Office) (accepts : office.mainWriter.refuses = false)
    (envelopes : List Envelope) :
    ∃ (mainWriter : Writer) (stream : String) (lines : List (List Char)),
      office.deliverAll envelopes = { office with mainWriter } ∧
      mainWriter.text = office.mainWriter.text ++ stream ∧
      stream.toList.splitOn '\n' = lines ++ [[]] ∧
      (lines.map fun line => (Json.ofText? (String.ofList line)).bind Envelope.ofJson?) =
        envelopes.map some := by
  have text : (String.join (envelopes.map Envelope.printed)).toList =
      (envelopes.map Envelope.line).flatMap (· ++ ['\n']) := by
    simp [Envelope.printed, List.flatMap_map]
  refine ⟨office.mainWriter.extend (envelopes.map Envelope.printed),
    String.join (envelopes.map Envelope.printed), envelopes.map Envelope.line,
    office.deliverAll_eq accepts envelopes, Writer.text_extend _ _, ?_, ?_⟩
  · rw [text]
    refine splitOn_flatMap_lineFeed fun line member => ?_
    obtain ⟨envelope, -, rfl⟩ := List.mem_map.mp member
    exact envelope.lineFeed_notMem_line
  · rw [List.map_map]
    refine List.map_congr_left fun envelope _ => ?_
    rw [Function.comp_apply, envelope.ofJson?_line]

/-- An office in which nothing has happened. -/
def unused : Office := {}

/-- Two envelopes, of which the first has a stack and a frame of several lines. -/
def twoEnvelopes : List Envelope :=
  [.ofPayloads .vls [{
      message := "a\nb\x00"
      stack := "one\r\ntwo"
      frame := some "  > 1 |\n      | ^"
      checker := .vls }],
    .ofPayloads .esLint []]

theorem deliver_twoEnvelopes :
    unused.mainWriter.refuses = false ∧
    ∃ (mainWriter : Writer) (stream : String) (lines : List (List Char)),
      unused.deliverAll twoEnvelopes = { unused with mainWriter } ∧
      mainWriter.text = unused.mainWriter.text ++ stream ∧
      stream.toList.splitOn '\n' = lines ++ [[]] ∧
      (lines.map fun line => (Json.ofText? (String.ofList line)).bind Envelope.ofJson?) =
        twoEnvelopes.map some :=
  ⟨rfl, deliver_stream unused rfl twoEnvelopes⟩

end Office

end DiagnosticReport
