import DiagnosticReport.Proofs.Text.EscapeSeparation

/-!
# What the removal of escape sequences leaves

Escape sequences are removed in one pass. The characters on both sides of a
removed sequence then stand side by side, and together they may be a sequence
that the text did not hold: its start had been cut off from its tail by the
sequence between them. The pass is past the start by then.

No sequence holds a start behind its own (`exists_passed`), so what happens to a
start depends on what follows it alone: it stays exactly if it opens no sequence.
A text is left without any start exactly if each of its starts opens a sequence
(`noStart_stripEscapes_iff`), and is left as it is exactly if none of them does
(`clean_iff_stripEscapes_eq`).
-/

set_option autoImplicit false

namespace DiagnosticReport.Text

/-! ## Properties of all starts of a text -/

/-- What stands behind each start of a text has this property. -/
def EachStart (property : List Char → Prop) (text : List Char) : Prop :=
  ∀ start rest, start :: rest <:+ text → startsEscape start = true → property rest

/-- A text that holds no escape sequence anywhere. -/
def Clean (text : List Char) : Prop := EachStart (fun rest => afterStart? rest = none) text

/-- A text in which every start opens a sequence. -/
def Complete (text : List Char) : Prop := EachStart (fun rest => (afterStart? rest).isSome) text

/-- A text in which no sequence starts. -/
def NoStart (text : List Char) : Prop := EachStart (fun _ => False) text

variable {property : List Char → Prop}

theorem eachStart_nil : EachStart property [] := by
  intro start rest suffix
  simp at suffix

theorem eachStart_cons {character : Char} {text : List Char} :
    EachStart property (character :: text) ↔
      (startsEscape character = true → property text) ∧ EachStart property text := by
  constructor
  · intro each
    refine ⟨each character text List.suffix_rfl, ?_⟩
    intro start rest suffix
    exact each start rest (suffix.trans (List.suffix_cons character text))
  · rintro ⟨here, later⟩ start rest suffix starts
    rcases List.suffix_cons_iff.mp suffix with equal | deeper
    · obtain ⟨rfl, rfl⟩ := List.cons.inj equal
      exact here starts
    · exact later start rest deeper starts

theorem eachStart_plain {character : Char} {text : List Char}
    (plain : startsEscape character = false) :
    EachStart property (character :: text) ↔ EachStart property text := by
  simp [eachStart_cons, plain]

theorem eachStart_append_of_no_start {text : List Char} (rest : List Char)
    (plain : ∀ character ∈ text, startsEscape character = false) :
    EachStart property (text ++ rest) ↔ EachStart property rest := by
  induction text with
  | nil => rfl
  | cons character text ih =>
      have here := plain character List.mem_cons_self
      have later := ih fun other member => plain other (List.mem_cons_of_mem _ member)
      rw [List.cons_append, eachStart_plain here, later]

theorem eachStart_of_no_start {text : List Char}
    (plain : ∀ character ∈ text, startsEscape character = false) : EachStart property text := by
  have whole : EachStart property (text ++ []) :=
    (eachStart_append_of_no_start [] plain).mpr eachStart_nil
  rwa [List.append_nil] at whole

theorem noStart_iff {text : List Char} :
    NoStart text ↔ ∀ character ∈ text, startsEscape character = false := by
  constructor
  · intro none character member
    obtain ⟨before, behind, rfl⟩ := List.append_of_mem member
    cases starts : startsEscape character with
    | false => rfl
    | true => exact (none character behind (List.suffix_append before _) starts).elim
  · exact eachStart_of_no_start

/-! ## Parts between separators -/

/-- A property that depends on what stands in front of the first separator
alone. -/
def EndsAtSeparators (property : List Char → Prop) : Prop :=
  ∀ separator, isSeparator separator = true → ∀ text rest,
    (property (text ++ separator :: rest) ↔ property text)

theorem endsAtSeparators_afterStart?_none :
    EndsAtSeparators fun rest => afterStart? rest = none := by
  intro separator separates text rest
  simp only [afterStart?_append_stop (stopsReading_of_isSeparator separates),
    Option.map_eq_none_iff]

theorem endsAtSeparators_false : EndsAtSeparators fun _ => False := fun _ _ _ _ => Iff.rfl

section Separator

variable {separator : Char} (separates : isSeparator separator = true)
  (ends : EndsAtSeparators property)
include separates ends

theorem eachStart_append_separator (text rest : List Char) :
    EachStart property (text ++ separator :: rest) ↔
      EachStart property text ∧ EachStart property rest := by
  induction text with
  | nil =>
      rw [List.nil_append, eachStart_plain (startsEscape_of_isSeparator separates),
        and_iff_right eachStart_nil]
  | cons character text ih =>
      rw [List.cons_append, eachStart_cons, ih, ends separator separates, eachStart_cons,
        and_assoc]

theorem eachStart_intercalate (rows : List (List Char)) :
    EachStart property ([separator].intercalate rows) ↔
      ∀ row ∈ rows, EachStart property row := by
  induction rows with
  | nil => simpa using eachStart_nil
  | cons row rows ih =>
      cases rows with
      | nil => simp
      | cons next rows =>
          rw [List.intercalate_cons_cons, List.append_assoc, List.singleton_append,
            eachStart_append_separator separates ends, ih, List.forall_mem_cons,
            List.forall_mem_cons, List.forall_mem_cons]

end Separator

/-! ## What one pass leaves -/

theorem stripEscapes_sublist (text : List Char) : (stripEscapes text).Sublist text := by
  fun_induction stripEscapes text with
  | case1 => exact List.Sublist.slnil
  | case2 start text starts after found ih =>
      exact ih.trans ((afterStart?_suffix found).sublist.trans (List.sublist_cons_self start text))
  | case3 start text starts missing ih => exact ih.cons_cons start
  | case4 other text plain ih => exact ih.cons_cons other

/-- **A text holds no sequence exactly if the removal of sequences changes
nothing.** -/
theorem clean_iff_stripEscapes_eq {text : List Char} : Clean text ↔ stripEscapes text = text := by
  induction text with
  | nil => exact iff_of_true eachStart_nil (by rw [stripEscapes])
  | cons character text ih =>
      rw [Clean, eachStart_cons]
      cases starts : startsEscape character with
      | false =>
          rw [stripEscapes_plain starts, List.cons.injEq, ← ih]
          simp [Clean]
      | true =>
          cases found : afterStart? text with
          | none =>
              rw [stripEscapes_missing starts found, List.cons.injEq, ← ih]
              simp [Clean]
          | some after =>
              have shorter := (stripEscapes_sublist after).length_le
              have suffix := (afterStart?_suffix found).length_le
              refine iff_of_false (by simp) fun same => ?_
              have lengths := congrArg List.length same
              rw [stripEscapes_found starts found, List.length_cons] at lengths
              omega

/-- The characters of a sequence behind its start are no starts. -/
theorem exists_passed {text after : List Char} (found : afterStart? text = some after) :
    ∃ passed, passed ++ after = text ∧
      ∀ character ∈ passed, startsEscape character = false := by
  obtain ⟨passed, rfl⟩ := afterStart?_suffix found
  refine ⟨passed, rfl, fun character member => ?_⟩
  cases starts : startsEscape character with
  | false => rfl
  | true =>
      -- Reading stops in front of a start, so all from there on would be left.
      obtain ⟨before, behind, rfl⟩ := List.append_of_mem member
      rw [List.append_assoc, List.cons_append,
        afterStart?_append_stop (stopsReading_of_startsEscape starts)] at found
      obtain ⟨left, -, whole⟩ := Option.map_eq_some_iff.mp found
      have lengths := congrArg List.length whole
      simp only [List.length_append, List.length_cons] at lengths
      omega

/-- **One pass leaves no start exactly if every start opens a sequence.** -/
theorem noStart_stripEscapes_iff {text : List Char} :
    NoStart (stripEscapes text) ↔ Complete text := by
  fun_induction stripEscapes text with
  | case1 => exact iff_of_true eachStart_nil eachStart_nil
  | case2 start text starts after found ih =>
      obtain ⟨passed, rfl, plain⟩ := exists_passed found
      rw [ih, Complete, Complete, eachStart_cons, eachStart_append_of_no_start after plain, found]
      simp
  | case3 start text starts missing ih =>
      rw [NoStart, Complete, eachStart_cons, eachStart_cons, missing]
      simp [starts]
  | case4 other text plain ih =>
      have quiet : startsEscape other = false := by simpa using plain
      rw [NoStart, Complete, eachStart_plain quiet, eachStart_plain quiet]
      exact ih

end DiagnosticReport.Text
