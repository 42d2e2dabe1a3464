import DiagnosticReport.Proofs.Frame.PlainFrame
import DiagnosticReport.Proofs.Report.Projection
import DiagnosticReport.Proofs.Text.EscapeResidue

/-!
# Escape sequences in what the overlay shows

The frame of a payload is a decorated frame that one pass over it has freed of
escape sequences. All sequences of the ink are gone then. What may be left
belongs to the source: if a sequence of a shown line cuts another one in two,
the pass removes the first and joins the parts of the second
(`nested_sequence_stays`).

`sequences_left` says exactly when that happens. The frame holds a sequence if
and only if one pass over some shown line leaves one there, and it is free of
starts if and only if every start in a shown line opens a sequence.
-/

set_option autoImplicit false

namespace DiagnosticReport.Frame

open DiagnosticReport.Text

/-! ## The starts of a plain frame -/

/-- A row of carets without ink holds no start. -/
theorem startsEscape_of_mem_caretRow {width : Nat} {text : List Char} {column length : Int}
    {character : Char} (member : character ∈ caretRow .none width text column length) :
    startsEscape character = false := by
  simp only [caretRow, Ink.none, List.nil_append, List.append_nil, List.mem_cons,
    List.mem_append, List.mem_replicate] at member
  rcases member with rfl | guttered | rfl | filled | ⟨-, rfl⟩
  · decide
  · exact startsEscape_of_mem_gutter (by simp) guttered
  · decide
  · exact startsEscape_of_mem_filler filled
  · decide

section

variable {property : List Char → Prop}

/-- The starts of a row are those that one pass leaves in its line. -/
theorem eachStart_plainRow {mark : Char} (plain : startsEscape mark = false) (width : Nat)
    (line : ShownLine) :
    EachStart property (plainRow mark width line) ↔
      EachStart property (stripEscapes line.text) := by
  rw [plainRow, eachStart_plain plain, eachStart_append_of_no_start _ fun _ =>
    startsEscape_of_mem_gutter fun _ => startsEscape_of_mem_digits, plainBody]
  split
  · rename_i empty
    rw [List.isEmpty_iff.mp empty, stripEscapes]
  · rw [eachStart_plain (by decide)]

theorem eachStart_plainRows (width : Nat) (line : ShownLine) :
    (∀ row ∈ line.plainRows width, EachStart property row) ↔
      EachStart property (stripEscapes line.text) := by
  have carets : ∀ column length,
      EachStart property (caretRow .none width line.text column length) := fun _ _ =>
    eachStart_of_no_start fun _ => startsEscape_of_mem_caretRow
  have marked : ∀ mark, startsEscape mark = false →
      (EachStart property (plainRow mark width line) ↔
        EachStart property (stripEscapes line.text)) := fun _ plain =>
    eachStart_plainRow plain width line
  rw [ShownLine.plainRows]
  split
  · rw [List.forall_mem_singleton, marked ' ' (by decide)]
  · rw [List.forall_mem_singleton, marked '>' (by decide)]
  · rw [List.forall_mem_cons, List.forall_mem_singleton, marked '>' (by decide),
      and_iff_left (carets _ _)]

/-- The rows of a frame end at line feeds, which are separators, so the starts of
the frame are those of its rows. -/
theorem eachStart_drawPlain (ends : EndsAtSeparators property) (source : List Char)
    (location : Location) :
    EachStart property (drawPlain source location) ↔
      ∀ line ∈ shownLines source location, EachStart property (stripEscapes line.text) := by
  have indented : ∀ row : List Char,
      EachStart property (' ' :: ' ' :: row) ↔ EachStart property row := by
    intro row
    rw [eachStart_plain (by decide), eachStart_plain (by decide)]
  rw [drawPlain, layout, eachStart_intercalate (by decide) ends, List.forall_mem_map]
  simp only [indented, plainRows, List.forall_mem_flatMap, eachStart_plainRows]

end

end DiagnosticReport.Frame

namespace DiagnosticReport

open DiagnosticReport.Text

/-! ## The frames of payloads -/

/-- The text in which a diagnostic is shown, and its location there. -/
def RawDiagnostic.place? : RawDiagnostic → Option (String × Location)
  | .compiler diagnostic => diagnostic.place?
  | .component diagnostic => diagnostic.place?
  | .lint _ source message => some (source, message.location)
  | .server _ text diagnostic => some (text, diagnostic.range.toLocation)

/-- A payload has the stripped frame of the place of its diagnostic. -/
theorem RawDiagnostic.frame_ofRecord {raw : RawDiagnostic} {record : Record}
    (made : raw.record? = some record) :
    (Payload.ofRecord record).frame =
      raw.place?.map fun place => (CodeFrame.render place.1 place.2).stripped := by
  cases raw with
  | compiler diagnostic =>
      cases made
      exact Option.map_map _ _ _
  | component diagnostic =>
      cases made
      exact Option.map_map _ _ _
  | lint path source message =>
      obtain ⟨level, -, rfl⟩ := Option.map_eq_some_iff.mp made
      rfl
  | server path text diagnostic =>
      cases made
      rfl

namespace CodeFrame

theorem toList_stripped (source : String) (location : Location) :
    (render source location).stripped.toList = Frame.drawPlain source.toList location := by
  rw [render, String.toList_ofList, Frame.stripEscapes_draw_terminal]

/-- **What is left in a stripped frame comes from single lines of the source.**
The frame holds a sequence exactly if a second pass would change it, and exactly
if one pass over some shown line leaves a sequence there. It holds a start exactly
if some start in a shown line opens no sequence. The payloads of all diagnostics
with this place have this frame. -/
theorem sequences_left (source : String) (location : Location) :
    (Clean (render source location).stripped.toList ↔
      strip (render source location).stripped = (render source location).stripped) ∧
    (Clean (render source location).stripped.toList ↔
      ∀ line ∈ Frame.shownLines source.toList location, Clean (stripEscapes line.text)) ∧
    ((∀ character ∈ (render source location).stripped.toList, startsEscape character = false) ↔
      ∀ line ∈ Frame.shownLines source.toList location, Complete line.text) ∧
    ∀ raw record, RawDiagnostic.record? raw = some record →
      raw.place? = some (source, location) →
      (Payload.ofRecord record).frame = some (render source location).stripped := by
  have again : strip (render source location).stripped = (render source location).stripped ↔
      stripEscapes (render source location).stripped.toList =
        (render source location).stripped.toList := by
    rw [strip, ← String.toList_inj, String.toList_ofList]
  rw [again, toList_stripped]
  refine ⟨clean_iff_stripEscapes_eq,
    Frame.eachStart_drawPlain endsAtSeparators_afterStart?_none _ _, ?_, ?_⟩
  · simp only [← noStart_iff, ← noStart_stripEscapes_iff]
    exact Frame.eachStart_drawPlain endsAtSeparators_false _ _
  · intro raw record made place
    rw [RawDiagnostic.frame_ofRecord made, place, Option.map_some]

/-- A diagnostic in a text in which a sequence stands inside another one. -/
def nestedDiagnostic : CompilerDiagnostic :=
  ⟨some ⟨"a.ts", "\x1b\x1b[0m[0m"⟩, .plain "m", 1, 0, some 0, some 0⟩

/-- The pass removes the inner sequence, and the parts of the outer one are a
sequence then. The payload carries it. -/
theorem nested_sequence_stays :
    (render "\x1b\x1b[0m[0m" ⟨⟨1, 1⟩, ⟨1, 1⟩⟩).stripped = "  > 1 | \x1b[0m\n      | ^" ∧
    (Payload.ofRecord nestedDiagnostic.normalize).frame = some "  > 1 | \x1b[0m\n      | ^" ∧
    ¬ Clean "  > 1 | \x1b[0m\n      | ^".toList := by
  have frame : (render "\x1b\x1b[0m[0m" ⟨⟨1, 1⟩, ⟨1, 1⟩⟩).stripped =
      "  > 1 | \x1b[0m\n      | ^" := by cbv
  refine ⟨frame, congrArg some frame, ?_⟩
  intro clean
  have missing := clean '\x1b' "[0m\n      | ^".toList ⟨"  > 1 | ".toList, by decide⟩ (by decide)
  exact absurd missing (by decide)

end CodeFrame

end DiagnosticReport
