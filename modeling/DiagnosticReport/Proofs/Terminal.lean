import DiagnosticReport.Report

/-!
# Labels of terminal texts

Every block starts with a label, and no label is the start of another
(`label_prefix_iff`). So a text has the label of one level at most, and a block
that of its record (`isLabelled_block`). The other texts of a job, about
notifications, about a failure and the summary, have no label at all.
-/

set_option autoImplicit false

namespace DiagnosticReport.Terminal

/-- A text starts with the label of a level. -/
def isLabelled (colors : Bool) (checker : Checker) (level : Level) (text : String) : Bool :=
  (label colors (some checker) level).toList.isPrefixOf text.toList

variable {colors : Bool} {checker : Checker} {level : Level} {text : String}

theorem isLabelled_iff :
    isLabelled colors checker level text = true ↔
      (label colors (some checker) level).toList <+: text.toList :=
  List.isPrefixOf_iff_prefix

/-- The start of a label, up to where it differs from the others. -/
def labelOpening (colors : Bool) (level : Level) : List Char :=
  if colors then (labelStyle level).opening else ' ' :: (labelWord level).toList.take 1

theorem labelOpening_prefix_label :
    labelOpening colors level <+: (label colors (some checker) level).toList := by
  cases colors with
  | false =>
      rw [labelOpening, if_neg Bool.false_ne_true, label, Text.Style.paint,
        if_neg Bool.false_ne_true, String.append_assoc, String.append_assoc, String.toList_append,
        String.toList_append]
      exact List.prefix_cons_inj ' ' |>.mpr
        ((List.take_prefix 1 _).trans (List.prefix_append _ _))
  | true =>
      rw [labelOpening, if_pos rfl, label, Text.Style.paint, if_pos rfl, String.toList_ofList,
        List.append_assoc]
      exact List.prefix_append _ _

theorem labelOpening_prefix_iff {other : Level} :
    labelOpening colors level <+: labelOpening colors other ↔ level = other := by
  cases colors <;> cases level <;> cases other <;> decide

/-- No label is the start of another one. -/
theorem label_prefix_iff {other : Level} :
    (label colors (some checker) level).toList <+: (label colors (some checker) other).toList ↔
      level = other := by
  constructor
  · intro starts
    rcases List.prefix_or_prefix_of_prefix (labelOpening_prefix_label.trans starts)
        labelOpening_prefix_label with shorter | longer
    · exact labelOpening_prefix_iff.mp shorter
    · exact (labelOpening_prefix_iff.mp longer).symm
  · rintro rfl
    exact List.prefix_rfl

/-- A text that starts with a label has this one only. -/
theorem isLabelled_of_label_prefix {other : Level}
    (starts : (label colors (some checker) other).toList <+: text.toList) :
    isLabelled colors checker level text = (other == level) := by
  rw [Bool.eq_iff_iff, isLabelled_iff, beq_iff_eq]
  constructor
  · intro alsoStarts
    rcases List.prefix_or_prefix_of_prefix starts alsoStarts with shorter | longer
    · exact label_prefix_iff.mp shorter
    · exact (label_prefix_iff.mp longer).symm
  · rintro rfl
    exact starts

/-- A text has no label if it starts with something else. -/
theorem isLabelled_eq_false {opening : List Char} (starts : opening <+: text.toList)
    (different : ¬ opening <+: labelOpening colors level ∧
      ¬ labelOpening colors level <+: opening) :
    isLabelled colors checker level text = false := by
  rw [Bool.eq_false_iff]
  intro labelled
  rcases List.prefix_or_prefix_of_prefix starts
      (labelOpening_prefix_label.trans (isLabelled_iff.mp labelled)) with shorter | longer
  · exact different.1 shorter
  · exact different.2 longer

theorem label_prefix_block (record : Record) :
    (label colors (some checker) (record.level.getD .error)).toList <+:
      (block colors (some checker) record).toList := by
  rw [block, String.toList_intercalate, List.map_cons, headLine, String.toList_append,
    String.toList_append, List.append_assoc]
  cases ((fileLine? colors record).toList ++ (frame? record).toList ++
      (conclusion? record).toList).map String.toList with
  | nil =>
      rw [List.intercalate_singleton]
      exact List.prefix_append _ _
  | cons next others =>
      rw [List.intercalate_cons_cons, List.append_assoc, List.append_assoc]
      exact List.prefix_append _ _

/-- **A block has the label of its record**, and that of an error if the record
has no level. -/
theorem isLabelled_block (record : Record) :
    isLabelled colors checker level (block colors (some checker) record) =
      (record.level.getD .error == level) :=
  isLabelled_of_label_prefix (label_prefix_block record)

/-- Each part stands somewhere in the parts joined. -/
theorem infix_intercalate_of_mem {separator part : List Char} {parts : List (List Char)}
    (member : part ∈ parts) : part <:+: separator.intercalate parts := by
  induction parts with
  | nil => cases member
  | cons first parts ih =>
      cases parts with
      | nil =>
          have alone : separator.intercalate [first] = first := List.intercalate_singleton
          exact ((List.mem_singleton.mp member).trans alone.symm) ▸ List.infix_rfl
      | cons next others =>
          rw [List.intercalate_cons_cons, List.append_assoc]
          rcases List.mem_cons.mp member with rfl | later
          · exact (List.prefix_append _ _).isInfix
          · exact (ih later).trans
              ((List.suffix_append separator _).trans (List.suffix_append first _)).isInfix

/-- A block prints the code frame of its record. -/
theorem frame_infix_block {record : Record} {frame : String}
    (framed : record.codeFrame = some frame) :
    frame.toList <:+: (block colors (some checker) record).toList := by
  by_cases empty : frame.isEmpty = true
  · rw [String.isEmpty_iff.mp empty]
    exact List.nil_infix
  · have shown : frame? record = some (frame ++ "\n") := by
      rw [frame?, framed]
      exact if_neg empty
    have part : (frame ++ "\n").toList ∈
        (headLine colors (some checker) record :: ((fileLine? colors record).toList ++
          (frame? record).toList ++ (conclusion? record).toList)).map String.toList := by
      rw [shown]
      simp
    rw [block, String.toList_intercalate]
    refine List.IsInfix.trans ?_ (infix_intercalate_of_mem part)
    rw [String.toList_append]
    exact (List.prefix_append _ _).isInfix

end DiagnosticReport.Terminal

namespace DiagnosticReport.Job

open DiagnosticReport.Terminal

variable {colors : Bool} {checker : Checker} {level : Level}

/-- No label starts with two spaces. -/
theorem isLabelled_indented {text : String} (indented : [' ', ' '] <+: text.toList) :
    isLabelled colors checker level text = false := by
  refine isLabelled_eq_false indented ?_
  cases colors <;> cases level <;> decide

theorem isLabelled_notificationLine (error : NotificationError) :
    isLabelled colors checker level (notificationLine colors error) = false := by
  refine isLabelled_indented ?_
  rw [notificationLine, String.toList_append, String.toList_append, String.toList_append,
    List.append_assoc, List.append_assoc]
  exact List.prefix_append _ _

theorem isLabelled_failureLine (error : JobError) :
    isLabelled colors checker level (failureLine colors checker error) = false := by
  refine isLabelled_indented ?_
  rw [failureLine, String.toList_append, String.toList_append, String.toList_append,
    List.append_assoc, List.append_assoc]
  exact List.prefix_append _ _

theorem isLabelled_summary (name : String) (counts : Counts) :
    isLabelled colors checker level ((Summary.compose name counts).display colors) = false := by
  cases colors with
  | false =>
      refine @isLabelled_eq_false _ _ _ _ ['['] ?_ ?_
      · rw [Summary.display, Text.Style.paint, if_neg Bool.false_ne_true, Summary.compose,
          Summary.behindName, String.append_assoc, String.append_assoc, String.toList_append]
        exact List.prefix_append _ _
      · cases level <;> decide
  | true =>
      refine @isLabelled_eq_false _ _ _ _ (Summary.compose name counts).color.style.opening ?_ ?_
      · rw [Summary.display, Text.Style.paint, if_pos rfl, String.toList_ofList, List.append_assoc]
        exact List.prefix_append _ _
      · cases (Summary.compose name counts).color <;> cases level <;> decide

end DiagnosticReport.Job
