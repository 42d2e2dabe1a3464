import DiagnosticReport.Proofs.Summary
import DiagnosticReport.Proofs.Text.Style
import DiagnosticReport.Report

/-!
# Colours add escape sequences and nothing else

A block with colours and the same block without them are the same text once the
escape sequences are removed, whatever its record holds (`stripEscapes_block`). The
parts of a block that are painted stand in front of separators, except for the
numbers of a position, which stand behind colons. A sequence that the name of the
file leaves open goes on over such a colon, but it finds no bell: digits and colons
follow without colours, an opening with them, and then the line ends.

The same holds for a summary whose name starts no sequence
(`colors_add_sequences_only`). The line for something that failed is seen with its label
and what is seen of the message behind it (`Job.strip_notificationLine`,
`Job.strip_failureLine`).
-/

set_option autoImplicit false

namespace DiagnosticReport

open DiagnosticReport.Text

/-! ## Painted parts -/

namespace Text

/-- The text of an integer is a list of argument characters. -/
theorem inArguments_of_mem_toString {value : Int} {character : Char}
    (member : character ∈ (toString value).toList) : inArguments character = true := by
  have digit {number : Nat} (inside : character ∈ number.repr.toList) :
      inArguments character = true := by
    rw [← Nat.toString_eq_repr] at inside
    exact inArguments_of_isDecimalDigit (Style.isDecimalDigit_of_mem_code inside)
  rw [Int.toString_eq_repr, Int.repr_eq_if] at member
  split at member
  · exact digit member
  · rw [String.toList_append, List.mem_append] at member
    rcases member with sign | number
    · rw [List.mem_singleton.mp sign]
      decide
    · exact digit number

/-- **A painted text is left as it was**, with colours and without. -/
theorem stripEscapes_paint_alone {style : Style} (short : style.Short) {text : String}
    (plain : ∀ character ∈ text.toList, startsEscape character = false)
    (silent : ¬ ReachesBell text.toList) (colors : Bool) :
    stripEscapes (style.paint colors text).toList = text.toList := by
  cases colors with
  | false => exact stripEscapes_of_no_start plain
  | true =>
      have whole := Style.stripEscapes_paint short plain silent [] []
      rw [List.append_nil, List.append_nil, Style.stripEscapes_reset, List.append_nil,
        List.nil_append, stripEscapes, List.nil_append] at whole
      exact whole

/-- **A label and a message behind it**: the label is left as it was, and the message
loses its own sequences only. -/
theorem strip_labelled {style : Style} (short : style.Short) {label : String}
    (plain : ∀ character ∈ label.toList, startsEscape character = false)
    (silent : ¬ ReachesBell label.toList) (colors : Bool) (message : String) :
    strip ("  " ++ style.paint colors label ++ ": " ++ message) =
      "  " ++ label ++ ": " ++ strip message := by
  have parts : ("  " ++ style.paint colors label ++ ": " ++ message).toList =
      (([' '] ++ ' ' :: (style.paint colors label).toList) ++ [':']) ++ ' ' :: message.toList := by
    simp
  have colon (front : List Char) : stripEscapes (front ++ [':']) = stripEscapes front ++ [':'] :=
    stripEscapes_append_colon front (by simp)
  have space : stripEscapes [' '] = [' '] := by
    rw [stripEscapes_plain (by decide), stripEscapes]
  rw [strip, parts, stripEscapes_append_separator (by decide), colon,
    stripEscapes_append_separator (by decide), space, stripEscapes_paint_alone short plain silent]
  simp [String.ext_iff, strip]

end Text

namespace Terminal

theorem short_labelStyle (level : Level) : (labelStyle level).Short := by
  cases level <;> decide

/-- The text of a label. -/
def labelText (name : Option Checker) (level : Level) : String :=
  " " ++ labelWord level ++ (name.elim "" fun checker => "(" ++ checker.name ++ ")") ++ " "

theorem startsEscape_of_mem_labelText {name : Option Checker} {level : Level} :
    ∀ character ∈ (labelText name level).toList, startsEscape character = false := by
  apply startsEscape_of_any_eq_false
  cases name with
  | none => cases level <;> decide
  | some checker => cases checker <;> cases level <;> decide

/-- A label starts with a space, so no bell is in reach. -/
theorem not_reachesBell_labelText (name : Option Checker) (level : Level) :
    ¬ ReachesBell (labelText name level).toList := by
  rw [labelText, String.append_assoc, String.append_assoc, String.toList_append]
  exact not_reachesBell_cons (by decide) (by decide) _

theorem stripEscapes_label (colors : Bool) (name : Option Checker) (level : Level) :
    stripEscapes (label colors name level).toList = (labelText name level).toList :=
  stripEscapes_paint_alone (short_labelStyle level) startsEscape_of_mem_labelText
    (not_reachesBell_labelText name level) colors

/-! ## Positions -/

theorem short_yellow : Style.yellow.Short := by decide

theorem toList_position (colors : Bool) (location : Location) :
    (position colors location).toList =
      ':' :: ((Style.yellow.paint colors (toString location.start.line.toInt)).toList ++
        ':' :: (Style.yellow.paint colors (toString location.start.column.toInt)).toList) := by
  simp [position]

/-- A painted number is left as it was, and nothing in front of it or behind its reset
gets at it. -/
theorem stripEscapes_around_number (value : Int) (front rest : List Char) :
    stripEscapes (front ++ ((Style.yellow.paint true (toString value)).toList ++ rest)) =
      stripEscapes front ++ ((toString value).toList ++ stripEscapes (Style.reset ++ rest)) :=
  Style.stripEscapes_paint short_yellow
    (fun _ member => startsEscape_of_inArguments (inArguments_of_mem_toString member))
    (not_reachesBell_of_inArguments fun _ => inArguments_of_mem_toString) front rest

/-- A painted position without its paint. -/
theorem stripEscapes_append_painted (text : List Char) (line column : Int) :
    stripEscapes (text ++ ':' :: ((Style.yellow.paint true (toString line)).toList ++
        ':' :: (Style.yellow.paint true (toString column)).toList)) =
      stripEscapes text ++ ':' :: ((toString line).toList ++ ':' :: (toString column).toList) := by
  have colon (front : List Char) : stripEscapes (front ++ [':']) = stripEscapes front ++ [':'] :=
    stripEscapes_append_colon front (by simp)
  have last : stripEscapes
      (Style.reset ++ ':' :: (Style.yellow.paint true (toString column)).toList) =
      ':' :: (toString column).toList := by
    have whole := stripEscapes_around_number column (Style.reset ++ [':']) []
    simpa only [List.append_nil, colon, Style.stripEscapes_reset, List.nil_append,
      List.append_assoc, List.singleton_append] using whole
  have first := stripEscapes_around_number line (text ++ [':'])
    (':' :: (Style.yellow.paint true (toString column)).toList)
  rw [last, colon] at first
  simpa only [List.append_assoc, List.singleton_append] using first

/-- **A position closes what the text in front leaves open**, with colours and without. -/
theorem stripEscapes_append_position (colors : Bool) (text : List Char) (location : Location) :
    stripEscapes (text ++ (position colors location).toList) =
      stripEscapes text ++ (position false location).toList := by
  rw [toList_position, toList_position]
  cases colors with
  | false =>
      apply stripEscapes_append_colon
      intro character member
      rcases List.mem_append.mp member with line | behind
      · exact inArguments_of_mem_toString line
      · rcases List.mem_cons.mp behind with rfl | column
        · decide
        · exact inArguments_of_mem_toString column
  | true => exact stripEscapes_append_painted text _ _

/-! ## Blocks -/

theorem stripEscapes_headLine (colors : Bool) (name : Option Checker) (record : Record) :
    stripEscapes (headLine colors name record).toList =
      (labelText name (record.level.getD .error)).toList ++
        ' ' :: stripEscapes (record.message.getD "").toList := by
  have parts : (headLine colors name record).toList =
      (label colors name (record.level.getD .error)).toList ++
        ' ' :: (record.message.getD "").toList := by
    simp [headLine]
  rw [parts, stripEscapes_append_separator (by decide), stripEscapes_label]

/-- The line of the file without its paint. -/
theorem stripEscapes_fileLine (colors : Bool) (id : String) (location : Option Location) :
    stripEscapes (Style.onBrightCyan.paint colors " FILE " ++ " " ++ id ++
        location.elim "" (position colors) ++ "\n").toList =
      " FILE ".toList ++ ' ' :: (stripEscapes id.toList ++
        ((location.elim "" (position false)).toList ++ ['\n'])) := by
  have parts : (Style.onBrightCyan.paint colors " FILE " ++ " " ++ id ++
      location.elim "" (position colors) ++ "\n").toList =
      (Style.onBrightCyan.paint colors " FILE ").toList ++
        ' ' :: ((id.toList ++ (location.elim "" (position colors)).toList) ++ '\n' :: []) := by
    simp [String.toList_append]
  have silent : ¬ ReachesBell " FILE ".toList := not_reachesBell_of_no_bell (by decide)
  have name : stripEscapes (Style.onBrightCyan.paint colors " FILE ").toList = " FILE ".toList :=
    stripEscapes_paint_alone (by decide) (startsEscape_of_any_eq_false (by decide)) silent colors
  have place : stripEscapes (id.toList ++ (location.elim "" (position colors)).toList) =
      stripEscapes id.toList ++ (location.elim "" (position false)).toList := by
    cases location with
    | none => simp
    | some location => exact stripEscapes_append_position colors id.toList location
  rw [parts, stripEscapes_append_separator (by decide), stripEscapes_append_separator (by decide),
    name, place, stripEscapes, List.append_assoc]

theorem map_stripEscapes_fileLine? (record : Record) :
    ((fileLine? true record).toList.map String.toList).map stripEscapes =
      ((fileLine? false record).toList.map String.toList).map stripEscapes := by
  rw [fileLine?, fileLine?]
  split
  · simp only [Option.toList_some, List.map_singleton, stripEscapes_fileLine]
  · rfl

/-- **Colours leave nothing behind in a block.** -/
theorem stripEscapes_block (name : Option Checker) (record : Record) :
    stripEscapes (block true name record).toList =
      stripEscapes (block false name record).toList := by
  have joined (parts : List String) : stripEscapes (String.intercalate "\n" parts).toList =
      ['\n'].intercalate ((parts.map String.toList).map stripEscapes) := by
    rw [String.toList_intercalate]
    exact stripEscapes_intercalate (by decide) _
  rw [block, block, joined, joined]
  simp only [List.map_cons, List.map_append, stripEscapes_headLine, map_stripEscapes_fileLine?]

end Terminal

/-! ## Summaries -/

namespace Summary

theorem startsEscape_of_mem_quantity {count : Nat} {noun : String}
    (plain : ∀ character ∈ noun.toList, startsEscape character = false) :
    ∀ character ∈ (quantity count noun).toList, startsEscape character = false := by
  intro character member
  rw [toList_quantity, List.mem_append, List.mem_cons, String.toList_append, List.mem_append]
    at member
  rcases member with digit | rfl | inNoun | plural
  · exact startsEscape_of_inArguments (inArguments_of_isDecimalDigit
      (isDecimalDigit_of_isDigit (Decimal.isDigit_of_mem_toDigits digit)))
  · decide
  · exact plain character inNoun
  · split at plural
    · rw [List.mem_singleton.mp plural]
      decide
    · cases plural

/-- A summary starts no sequence if its name starts none. -/
theorem startsEscape_of_mem_text {name : String}
    (plain : ∀ character ∈ name.toList, startsEscape character = false) (counts : Counts) :
    ∀ character ∈ (compose name counts).text.toList, startsEscape character = false := by
  have parts : (compose name counts).text.toList =
      "[".toList ++ (name.toList ++ ("] Found ".toList ++
        ((quantity counts.errors "error").toList ++
          (" and ".toList ++ (quantity counts.warnings "warning").toList)))) := by
    simp [compose, behindName]
  rw [parts]
  simp only [List.forall_mem_append]
  have literal {text : String} (none : text.toList.any startsEscape = false) :
      ∀ character ∈ text.toList, startsEscape character = false :=
    startsEscape_of_any_eq_false none
  exact ⟨literal (by decide), plain, literal (by decide),
    startsEscape_of_mem_quantity (literal (by decide)), literal (by decide),
    startsEscape_of_mem_quantity (literal (by decide))⟩

theorem short_style (color : SummaryColor) : color.style.Short := by
  cases color <;> decide

/-- **A summary is left as it was**, with colours and without, if its name starts no
sequence. -/
theorem stripEscapes_display {name : String}
    (plain : ∀ character ∈ name.toList, startsEscape character = false) (counts : Counts)
    (colors : Bool) :
    stripEscapes ((compose name counts).display colors).toList =
      (compose name counts).text.toList := by
  -- The bracket in front of the name keeps a bell in the name out of reach.
  have silent : ¬ ReachesBell (compose name counts).text.toList := by
    rw [compose, behindName, String.append_assoc, String.append_assoc, String.toList_append]
    exact not_reachesBell_cons (by decide) (by decide) _
  exact stripEscapes_paint_alone (short_style _) (startsEscape_of_mem_text plain counts) silent
    colors

/-- The summary of a checker is seen as it was composed. -/
theorem strip_display (checker : Checker) (counts : Counts) (colors : Bool) :
    strip ((compose checker.name counts).display colors) = (compose checker.name counts).text := by
  have plain : ∀ character ∈ checker.name.toList, startsEscape character = false :=
    startsEscape_of_any_eq_false (by cases checker <;> decide)
  rw [strip, stripEscapes_display plain, String.ofList_toList]

end Summary

/-! ## Lines for what failed -/

namespace Job

theorem short_red : Style.red.Short := by decide

/-- **The line of a notification without records is seen as such**, with colours and
without. -/
theorem strip_notificationLine (colors : Bool) (error : NotificationError) :
    strip (notificationLine colors error) = "  lsp error: " ++ strip error.message := by
  have plain : ∀ character ∈ "lsp error".toList, startsEscape character = false :=
    startsEscape_of_any_eq_false (by decide)
  exact strip_labelled short_red plain (not_reachesBell_of_no_bell (by decide)) colors _

/-- **The line of a job that fails names its checker**, with colours and without. -/
theorem strip_failureLine (colors : Bool) (checker : Checker) (error : JobError) :
    strip (failureLine colors checker error) =
      "  [" ++ checker.name ++ "] failed: " ++ strip error.message := by
  have plain : ∀ character ∈ ("[" ++ checker.name ++ "] failed").toList,
      startsEscape character = false :=
    startsEscape_of_any_eq_false (by cases checker <;> decide)
  have silent : ¬ ReachesBell ("[" ++ checker.name ++ "] failed").toList :=
    not_reachesBell_of_no_bell (by cases checker <;> decide)
  have seen := strip_labelled short_red plain silent colors error.message
  rw [failureLine, seen]
  simp [String.ext_iff]

end Job

/-- **Colours add escape sequences and nothing else.** -/
theorem colors_add_sequences_only :
    (∀ (name : Option Checker) (record : Record),
      strip (Terminal.block true name record) = strip (Terminal.block false name record)) ∧
    (∀ (name : String) (counts : Counts),
      (∀ character ∈ name.toList, startsEscape character = false) →
      strip ((Summary.compose name counts).display true) = (Summary.compose name counts).text) := by
  constructor
  · intro name record
    rw [strip, strip, Terminal.stripEscapes_block]
  · intro name counts plain
    rw [strip, Summary.stripEscapes_display plain, String.ofList_toList]

/-- A record whose file name leaves a sequence open. -/
def openName : Record where
  message := some "no"
  id := some "a\x1b[3"
  checker := .esLint
  location := some ⟨⟨1, 2⟩, ⟨1, 3⟩⟩
  level := some .warning

/-- A file name that leaves a sequence open, and a name that holds a bell. -/
theorem colors_of_bellName :
    strip (Terminal.block true (some .esLint) openName) =
        " WARNING(ESLint)  no\n FILE  a:1:2\n" ∧
      (∀ character ∈ "a\x07b".toList, startsEscape character = false) ∧
      strip ((Summary.compose "a\x07b" ⟨1, 2⟩).display true) =
        "[a\x07b] Found 1 error and 2 warnings" := by
  have plain : ∀ character ∈ "a\x07b".toList, startsEscape character = false :=
    startsEscape_of_any_eq_false (by decide)
  refine ⟨?_, plain, ?_⟩
  · rw [colors_add_sequences_only.1 (some .esLint) openName]
    decide +kernel
  · rw [colors_add_sequences_only.2 "a\x07b" ⟨1, 2⟩ plain]
    rfl

end DiagnosticReport
