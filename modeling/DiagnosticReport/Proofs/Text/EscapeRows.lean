import DiagnosticReport.Proofs.Text.EscapePattern

/-!
# Escape sequences stay within their row

A character that belongs to no class of a pattern stands in none of its words
(`Pattern.Outside.notMem_of_reads`). No reading gets past such a character, not even
one that is taken back afterwards. A text that goes on there has the readings of the
part before, in the same order, and each of them leaves all that follows
(`Pattern.Outside.rests_append`). So it does not matter what follows, however far a
pattern looks ahead.

The line feed belongs to no class of the pattern of escape sequences, and neither do
the space, the bar of a gutter and the caret. Rows of a text lose their sequences each
on its own, and a sequence that one row leaves open ends with the row (`rows_apart`).
-/

set_option autoImplicit false

namespace DiagnosticReport.Text

namespace Pattern

/-- A character that belongs to no class of a pattern. -/
def Outside (character : Char) : Pattern → Prop
  | .empty => True
  | .one holds => holds character = false
  | .seq first second => Outside character first ∧ Outside character second
  | .either first second => Outside character first ∧ Outside character second
  | .many item => Outside character item

namespace Outside

variable {character : Char} {pattern : Pattern}

/-- No word of a pattern holds a character outside its classes. -/
theorem notMem_of_reads {word : List Char} (outside : pattern.Outside character)
    (reads : pattern.Reads word) : character ∉ word := by
  induction reads with
  | empty => exact List.not_mem_nil
  | one inside =>
      intro member
      obtain rfl := List.mem_singleton.mp member
      exact absurd inside (Bool.eq_false_iff.mp outside)
  | seq _ _ frontIh backIh =>
      exact List.not_mem_append (frontIh outside.1) (backIh outside.2)
  | first _ ih => exact ih outside.1
  | second _ ih => exact ih outside.2
  | stop => exact List.not_mem_nil
  | more _ _ frontIh backIh => exact List.not_mem_append (frontIh outside) (backIh outside)

/-- Repetitions do not see what follows if their items do not. -/
theorem restsOfMany_append {rests : List Char → List (List Char)} {behind : List Char}
    (item : ∀ text, rests (text ++ behind) = (rests text).map (· ++ behind)) (text : List Char) :
    restsOfMany rests (text ++ behind) = (restsOfMany rests text).map (· ++ behind) := by
  induction size : text.length using Nat.strongRecOn generalizing text with
  | ind size shorterIh =>
      rw [restsOfMany, restsOfMany, item, List.map_append, List.map_singleton, List.map_flatMap,
        List.flatMap_map]
      congr 2
      funext middle
      by_cases shorter : middle.length < text.length
      · rw [if_pos shorter, if_pos (by simpa using shorter),
          shorterIh middle.length (size ▸ shorter) middle rfl]
      · rw [if_neg shorter, if_neg (by simpa using shorter), List.map_nil]

/-- **The readings in front of a character outside the classes** are those of the text
that ends there. -/
theorem rests_append (outside : pattern.Outside character) (text rest : List Char) :
    pattern.rests (text ++ character :: rest) =
      (pattern.rests text).map (· ++ character :: rest) := by
  induction pattern generalizing text with
  | empty => rfl
  | one holds =>
      cases text with
      | nil =>
          have stops : (one holds).rests (character :: rest) = [] := by
            rw [rests, if_neg (Bool.eq_false_iff.mp outside)]
          exact stops
      | cons first text =>
          rw [List.cons_append, rests, rests]
          split
          · rfl
          · rfl
  | seq first second firstIh secondIh =>
      rw [rests, rests, firstIh outside.1, List.flatMap_map, List.map_flatMap]
      simp only [secondIh outside.2]
  | either first second firstIh secondIh =>
      rw [rests, rests, firstIh outside.1, secondIh outside.2, List.map_append]
  | many item ih =>
      rw [rests, rests]
      exact restsOfMany_append (ih outside) text

theorem preferred?_append (outside : pattern.Outside character) (text rest : List Char) :
    pattern.preferred? (text ++ character :: rest) =
      (pattern.preferred? text).map (· ++ character :: rest) := by
  rw [preferred?, preferred?, outside.rests_append, List.head?_map]

end Outside

end Pattern

namespace EscapePattern

/-- The characters outside the pattern of escape sequences are the separators. -/
theorem outside_sequence_iff {character : Char} :
    sequence.Outside character ↔ isSeparator character = true := by
  simp only [sequence, bellTail, numericTail, behindSemicolons, Pattern.optional,
    Pattern.atLeastOne, Pattern.upTo, CharacterClass.one, Pattern.Outside, holds_start,
    holds_introducer, holds_semicolon, holds_word, holds_argument, holds_closingBell, holds_digit,
    holds_final]
  grind [isSeparator, isIntroducer, isArgumentCharacter, isWordCharacter, isFinalCharacter]

/-- A character at which texts fall apart for the removal of escape sequences. -/
structure Cuts (character : Char) : Prop where
  /-- No sequence holds it. -/
  notMem : ∀ word, sequence.Reads word → character ∉ word
  /-- Whether a sequence is read in front of it, and which one, does not depend on what
  follows. -/
  preferred : ∀ text rest, sequence.preferred? (text ++ character :: rest) =
    (sequence.preferred? text).map (· ++ character :: rest)
  /-- The texts on its two sides lose their sequences each on its own. -/
  strip_append : ∀ before behind : String,
    strip (before ++ String.singleton character ++ behind) =
      strip before ++ String.singleton character ++ strip behind
  /-- So do rows that are joined by it. -/
  strip_rows : ∀ rows : List String,
    strip ((String.singleton character).intercalate rows) =
      (String.singleton character).intercalate (rows.map strip)
  /-- Each row of what is left comes from the same row of the text, and from no other. -/
  rows_strip : ∀ text : String, (strip text).toList.splitOn character =
    (text.toList.splitOn character).map stripEscapes

/-- **Rows lose their escape sequences apart from each other.** No character outside the
classes of the pattern is in a sequence, and none lets a sequence in front of it look
at what follows. -/
theorem rows_apart :
    (∀ character ∈ ['\n', ' ', '|', '^'], sequence.Outside character) ∧
      ∀ character, sequence.Outside character → Cuts character := by
  refine ⟨?_, fun character outside => ?_⟩
  · simp only [outside_sequence_iff, List.forall_mem_cons, List.not_mem_nil, false_implies,
      implies_true, and_true]
    decide
  have separates := outside_sequence_iff.mp outside
  constructor
  case notMem => exact fun word reads => outside.notMem_of_reads reads
  case preferred => exact outside.preferred?_append
  case strip_append =>
    intro before behind
    rw [← String.toList_inj]
    simpa [strip] using stripEscapes_append_separator separates before.toList behind.toList
  case strip_rows =>
    intro rows
    rw [← String.toList_inj]
    simpa [strip, String.toList_intercalate, Function.comp_def] using
      stripEscapes_intercalate separates (rows.map String.toList)
  case rows_strip =>
    intro text
    rw [strip, String.toList_ofList]
    exact splitOn_stripEscapes separates text.toList

/-- The first row leaves a sequence open, and the bell in the second row would end it. -/
theorem open_row_apart :
    sequence.Outside '\n' ∧
      strip ("\x1b[1;" ++ String.singleton '\n' ++ "2mx\x07y") = ";\n2mx\x07y" ∧
      strip ("\x1b[1;" ++ "2mx\x07y") = "y" := by
  have outside : sequence.Outside '\n' := rows_apart.1 '\n' (by decide)
  have open_row : strip "\x1b[1;" = ";" := by cbv
  have plain_row : strip "2mx\x07y" = "2mx\x07y" := by cbv
  refine ⟨outside, ?_, by cbv⟩
  rw [(rows_apart.2 '\n' outside).strip_append, open_row, plain_row]
  rfl

end EscapePattern

end DiagnosticReport.Text
