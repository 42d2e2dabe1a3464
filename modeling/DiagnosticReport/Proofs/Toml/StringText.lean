import DiagnosticReport.Toml.Scalar
import DiagnosticReport.Toml.Write
import Mathlib.Tactic.IntervalCases

/-!
# Strings and their TOML texts

A written string is read back, whichever of the four forms it takes
(`readString?_writeString`). Two things carry the proof.

A character of a basic string is written as itself, as a letter behind a
backslash, or with the digits of its code. Both readers of basic strings take
each of these off the front of a text (`ReadsEscaped`).

In the forms over several lines quotes may stand for themselves. The readers look
for three of them in a row from each quote on, so at most two may stand in front
of another character or of the closing quotes (`FewQuotes`).
-/

set_option autoImplicit false

namespace DiagnosticReport.Toml

/-- A character in front of what has been read. -/
def consRead (character : Char) (read : List Char × List Char) : List Char × List Char :=
  (character :: read.1, read.2)

/-! ## Characters of basic strings -/

/-- A reader that takes the characters of a basic string off the front of a text. -/
structure ReadsEscaped (long : Bool) (read? : List Char → Option (List Char × List Char)) :
    Prop where
  letter {letter character : Char} (short : shortEscape? letter = some character)
    (rest : List Char) : read? ('\\' :: letter :: rest) = (read? rest).map (consRead character)
  code {first second third fourth character : Char}
    (value : charOfHex? [first, second, third, fourth] = some character) (rest : List Char) :
    read? ('\\' :: 'u' :: first :: second :: third :: fourth :: rest) =
      (read? rest).map (consRead character)
  plain {character : Char} (plain : isPlain character = true) (notQuote : character ≠ '"')
    (notBackslash : character ≠ '\\') (rest : List Char) :
    read? (character :: rest) = (read? rest).map (consRead character)
  newLine (isLong : long = true) (rest : List Char) :
    read? ('\n' :: rest) = (read? rest).map (consRead '\n')

theorem readsEscaped_readBasic? : ReadsEscaped false readBasic? where
  letter short rest := by
    rw [readBasic?, short]
    · cases readBasic? rest <;> rfl
    · rintro _ _ _ _ _ rfl
      cases short
    · rintro _ _ _ _ _ _ _ _ _ rfl
      cases short
  code value rest := by
    rw [readBasic?, value]
    cases readBasic? rest <;> rfl
  plain plain notQuote notBackslash rest := by
    rw [readBasic?]
    · rw [if_pos (by simp [plain, notBackslash])]
      rfl
    · exact notQuote
    · intro _ _ _ _ _ backslash
      exact absurd backslash notBackslash
    · intro _ _ _ _ _ _ _ _ _ backslash
      exact absurd backslash notBackslash
    · intro _ _ backslash
      exact absurd backslash notBackslash
  newLine isLong := by cases isLong

theorem readsEscaped_readLongBasic? : ReadsEscaped true (readLongBasic? false false) where
  letter short rest := by
    rw [readLongBasic?, short]
    · rfl
    · rintro _ _ _ _ _ rfl
      cases short
    · rintro _ _ _ _ _ _ _ _ _ rfl
      cases short
  code value rest := by
    rw [readLongBasic?, value]
    cases readLongBasic? false false rest <;> rfl
  plain plain notQuote notBackslash rest := by
    rw [readLongBasic?]
    · simp only [Bool.false_and, Bool.false_eq_true, if_false, beq_iff_eq, notQuote, plain,
        Bool.true_and, bne_iff_ne, ne_eq, notBackslash, not_false_eq_true, if_true]
      rfl
    · rintro rfl
      cases plain
    · rintro _ rfl
      cases plain
    · intro _ _ _ _ _ backslash
      exact absurd backslash notBackslash
    · intro _ _ _ _ _ _ _ _ _ backslash
      exact absurd backslash notBackslash
    · intro _ _ backslash
      exact absurd backslash notBackslash
  newLine _ rest := by
    rw [readLongBasic?]
    rfl

/-- The ways in which a character is written. -/
theorem escapeCharacter_cases (long : Bool) (character : Char) :
    (∃ letter, shortEscape? letter = some character ∧
      escapeCharacter long character = ['\\', letter]) ∨
    (needsCode character = true ∧ escapeCharacter long character =
      ['\\', 'u', '0', '0', hexDigit (character.toNat / 16), hexDigit (character.toNat % 16)]) ∨
    (long = true ∧ character = '\n' ∧ escapeCharacter long character = [character]) ∨
    (isPlain character = true ∧ character ≠ '\n' ∧ character ≠ '\\' ∧
      escapeCharacter long character = [character]) := by
  by_cases short : character ∈ ['\x08', '\t', '\x0c', '\r', '\\']
  · simp only [List.mem_cons, List.not_mem_nil, or_false] at short
    left
    rcases short with rfl | rfl | rfl | rfl | rfl
    · exact ⟨'b', rfl, rfl⟩
    · exact ⟨'t', rfl, rfl⟩
    · exact ⟨'f', rfl, rfl⟩
    · exact ⟨'r', rfl, rfl⟩
    · exact ⟨'\\', rfl, rfl⟩
  · simp only [List.mem_cons, List.not_mem_nil, or_false, not_or] at short
    obtain ⟨backspace, tab, formFeed, carriage, backslash⟩ := short
    by_cases lineFeed : character = '\n'
    · subst lineFeed
      cases long with
      | false => exact .inl ⟨'n', rfl, rfl⟩
      | true => exact .inr (.inr (.inl ⟨rfl, rfl, rfl⟩))
    · right
      by_cases coded : needsCode character = true
      · refine .inl ⟨coded, ?_⟩
        simp [escapeCharacter, backspace, tab, lineFeed, formFeed, carriage, backslash, coded]
      · refine .inr (.inr ⟨?_, lineFeed, backslash, ?_⟩)
        · grind [needsCode, isPlain]
        · simp [escapeCharacter, backspace, tab, lineFeed, formFeed, carriage, backslash, coded]

theorem charOfHex?_hexDigit {character : Char} (coded : needsCode character = true) :
    charOfHex? ['0', '0', hexDigit (character.toNat / 16), hexDigit (character.toNat % 16)] =
      some character := by
  have all : ∀ code : Fin 0x80,
      charOfHex? ['0', '0', hexDigit (code.val / 16), hexDigit (code.val % 16)] =
        some (Char.ofNat code.val) := by
    decide
  have small : character.toNat < 0x80 := by
    simp only [needsCode, Bool.or_eq_true, Bool.and_eq_true, decide_eq_true_eq, beq_iff_eq] at coded
    rcases coded with ⟨⟨control, -⟩, -⟩ | rfl
    · omega
    · decide
  rw [all ⟨character.toNat, small⟩, Char.ofNat_toNat]

/-- A written character other than a quote is read as itself. -/
theorem ReadsEscaped.escapeCharacter {long : Bool}
    {read? : List Char → Option (List Char × List Char)} (reads : ReadsEscaped long read?)
    {character : Char} (notQuote : character ≠ '"') (rest : List Char) :
    read? (escapeCharacter long character ++ rest) = (read? rest).map (consRead character) := by
  rcases escapeCharacter_cases long character with ⟨letter, short, written⟩ | ⟨coded, written⟩ |
    ⟨isLong, rfl, written⟩ | ⟨plain, -, notBackslash, written⟩
  · rw [written]
    exact reads.letter short rest
  · rw [written]
    exact reads.code (charOfHex?_hexDigit coded) rest
  · rw [written]
    exact reads.newLine isLong rest
  · rw [written]
    exact reads.plain plain notQuote notBackslash rest

/-- What a written character starts with. -/
theorem escapeCharacter_head (long : Bool) (character : Char) (notQuote : character ≠ '"') :
    ∃ first more, escapeCharacter long character = first :: more ∧ first ≠ '"' ∧ first ≠ '\r' ∧
      (first = '\n' → character = '\n') := by
  rcases escapeCharacter_cases long character with ⟨letter, -, written⟩ | ⟨-, written⟩ |
    ⟨-, rfl, written⟩ | ⟨plain, -, -, written⟩
  · exact ⟨'\\', _, written, by decide, by decide, by simp⟩
  · exact ⟨'\\', _, written, by decide, by decide, by simp⟩
  · exact ⟨'\n', _, written, by decide, by decide, fun _ => rfl⟩
  · refine ⟨character, _, written, notQuote, ?_, id⟩
    rintro rfl
    cases plain

theorem shortEscape?_quote : shortEscape? '"' = some '"' := rfl

/-- **The characters of a basic string are read back.** -/
theorem readBasic?_escapeText (text rest : List Char) :
    readBasic? (escapeText false 0 0 text ++ '"' :: rest) = some (text, rest) := by
  induction text with
  | nil => rw [escapeText, List.nil_append, readBasic?]
  | cons character text ih =>
      rw [escapeText]
      split
      · rename_i quote
        rw [if_neg (by decide), beq_iff_eq.mp quote, List.cons_append, List.cons_append,
          readsEscaped_readBasic?.letter shortEscape?_quote, ih]
        rfl
      · rename_i other
        rw [List.append_assoc, readsEscaped_readBasic?.escapeCharacter (by simpa using other), ih]
        rfl

/-! ## Quotes that stand for themselves -/

section Quotes

variable {quote : Char} {rest : List Char}

/-- Fewer than three quotes close nothing. -/
theorem closeQuotes?_few {count : Nat} (few : count ≤ 2) {other : Char} (differs : other ≠ quote)
    (more : List Char) :
    closeQuotes? quote (List.replicate count quote ++ other :: more) = none := by
  -- The reader looks at up to five characters.
  rcases more with _ | ⟨second, _ | ⟨third, _ | ⟨fourth, _ | ⟨fifth, more⟩⟩⟩⟩ <;>
    interval_cases count <;> simp [closeQuotes?, differs]

/-- Three closing quotes, with up to two in front of them. -/
theorem closeQuotes?_closing {count : Nat} (few : count ≤ 2) (stops : rest.head? ≠ some quote) :
    closeQuotes? quote (List.replicate count quote ++ quote :: quote :: quote :: rest) =
      some (List.replicate count quote, rest) := by
  have differs : ∀ other more, rest = other :: more → (other == quote) = false := by
    rintro other more rfl
    simpa using stops
  interval_cases count
  · cases rest with
    | nil => simp [closeQuotes?]
    | cons first more => cases more <;> simp [closeQuotes?, differs first _ rfl]
  · cases rest with
    | nil => simp [closeQuotes?]
    | cons first more => simp [closeQuotes?, differs first more rfl]
  · simp [closeQuotes?]

/-- What is written for a text starts with a few quotes. They are the whole text,
or another character stands behind them. -/
inductive FewQuotes (quote : Char) (bound : Nat) : List Char → List Char → Prop where
  | all (count : Nat) (few : count ≤ bound) :
      FewQuotes quote bound (List.replicate count quote) (List.replicate count quote)
  | other {text : List Char} (count : Nat) (few : count ≤ bound) {other : Char}
      (differs : other ≠ quote) (more : List Char) :
      FewQuotes quote bound text (List.replicate count quote ++ other :: more)

theorem FewQuotes.mono {bound greater : Nat} {text written : List Char}
    (few : FewQuotes quote bound text written) (le : bound ≤ greater) :
    FewQuotes quote greater text written := by
  cases few with
  | all count few => exact .all count (few.trans le)
  | other count few differs more => exact .other count (few.trans le) differs more

theorem FewQuotes.cons {bound : Nat} {text written : List Char}
    (few : FewQuotes quote bound text written) :
    FewQuotes quote (bound + 1) (quote :: text) (quote :: written) := by
  cases few with
  | all count few =>
      rw [← List.replicate_succ]
      exact .all (count + 1) (Nat.succ_le_succ few)
  | other count few differs more =>
      rw [← List.cons_append, ← List.replicate_succ]
      exact .other (count + 1) (Nat.succ_le_succ few) differs more

variable {read? : List Char → Option (List Char × List Char)}
  (looks : ∀ rest, read? (quote :: rest) =
    (closeQuotes? quote (quote :: rest)).or ((read? rest).map (consRead quote)))
  (stops : rest.head? ≠ some quote)
include looks stops

/-- Three quotes at the end of a string close it. -/
theorem read_closing : read? (quote :: quote :: quote :: rest) = some ([], rest) := by
  rw [looks, ← List.nil_append (quote :: quote :: _)]
  exact congrArg (Option.or · _) (closeQuotes?_closing (Nat.zero_le 2) stops)

/-- A quote with few quotes behind it stands for itself. -/
theorem read_quote {text written : List Char} (few : FewQuotes quote 1 text written)
    (later : read? (written ++ quote :: quote :: quote :: rest) = some (text, rest)) :
    read? (quote :: written ++ quote :: quote :: quote :: rest) = some (quote :: text, rest) := by
  rw [List.cons_append, looks, later]
  cases few with
  | all count few =>
      rw [← List.cons_append, ← List.replicate_succ, closeQuotes?_closing (by omega) stops]
      rfl
  | other count few differs more =>
      rw [List.append_assoc, ← List.cons_append, ← List.replicate_succ, List.cons_append,
        closeQuotes?_few (by omega) differs]
      rfl

end Quotes

theorem readLongBasic?_quote (rest : List Char) :
    readLongBasic? false false ('"' :: rest) =
      (closeQuotes? '"' ('"' :: rest)).or
        ((readLongBasic? false false rest).map (consRead '"')) := by
  rw [readLongBasic?]
  · cases closeQuotes? '"' ('"' :: rest) <;> rfl
  all_goals simp

theorem readLongLiteral?_quote (rest : List Char) :
    readLongLiteral? ('\'' :: rest) =
      (closeQuotes? '\'' ('\'' :: rest)).or ((readLongLiteral? rest).map (consRead '\'')) := by
  rw [readLongLiteral?]
  · cases closeQuotes? '\'' ('\'' :: rest) <;> rfl
  all_goals simp

/-! ## Basic strings over several lines -/

/-- Of a run of quotes every third one is escaped, so that few stand for themselves. -/
theorem escapeText_fewQuotes (text : List Char) {run : Nat} (room : run ≤ 2) :
    FewQuotes '"' (2 - run) text (escapeText true 2 run text) := by
  induction text generalizing run with
  | nil => exact .all 0 (Nat.zero_le _)
  | cons character text ih =>
      rw [escapeText]
      split
      · rename_i quote
        obtain rfl := beq_iff_eq.mp quote
        split
        · have later := (ih (show run + 1 ≤ 2 by omega)).cons
          rwa [show 2 - (run + 1) + 1 = 2 - run by omega] at later
        · exact .other 0 (Nat.zero_le _) (by decide) _
      · rename_i other
        obtain ⟨first, more, written, differs, -⟩ :=
          escapeCharacter_head true character (by simpa using other)
        rw [written, List.cons_append]
        exact .other 0 (Nat.zero_le _) differs _

/-- **The characters of a basic string over several lines are read back.** -/
theorem readLongBasic?_escapeText (text : List Char) {rest : List Char} {run : Nat}
    (room : run ≤ 2) (stops : rest.head? ≠ some '"') :
    readLongBasic? false false (escapeText true 2 run text ++ '"' :: '"' :: '"' :: rest) =
      some (text, rest) := by
  induction text generalizing run with
  | nil => exact read_closing readLongBasic?_quote stops
  | cons character text ih =>
      rw [escapeText]
      split
      · rename_i quote
        obtain rfl := beq_iff_eq.mp quote
        split
        · rename_i plain
          have few := escapeText_fewQuotes text (show run + 1 ≤ 2 from plain)
          have one : FewQuotes '"' 1 text (escapeText true 2 (run + 1) text) := few.mono (by omega)
          exact read_quote readLongBasic?_quote stops one (ih plain)
        · rw [List.cons_append, List.cons_append,
            readsEscaped_readLongBasic?.letter shortEscape?_quote, ih (Nat.zero_le 2)]
          rfl
      · rename_i other
        rw [List.append_assoc, readsEscaped_readLongBasic?.escapeCharacter (by simpa using other),
          ih (Nat.zero_le 2)]
        rfl

/-! ## Runs of a character -/

theorem le_longestRun (wanted : Char) (run : Nat) (text : List Char) :
    run ≤ longestRun wanted run text := by
  induction text generalizing run with
  | nil => exact Nat.le_refl run
  | cons character text ih =>
      rw [longestRun]
      split
      · exact Nat.le_of_succ_le (ih (run + 1))
      · exact Nat.le_max_left ..

theorem notMem_of_longestRun {wanted : Char} {text : List Char}
    (none : longestRun wanted 0 text = 0) : wanted ∉ text := by
  induction text with
  | nil => exact List.not_mem_nil
  | cons character text ih =>
      rw [longestRun] at none
      split at none
      · have more := le_longestRun wanted (0 + 1) text
        omega
      · rename_i differs
        rw [List.mem_cons, not_or]
        refine ⟨?_, ih (Nat.max_eq_zero_iff.mp none).2⟩
        rintro rfl
        exact differs (beq_self_eq_true wanted)

/-- A text without three quotes in a row is written as it is. -/
theorem fewQuotes_of_longestRun {quote : Char} {text : List Char} {run : Nat}
    (few : longestRun quote run text ≤ 2) : FewQuotes quote (2 - run) text text := by
  induction text generalizing run with
  | nil => exact .all 0 (Nat.zero_le _)
  | cons character text ih =>
      rw [longestRun] at few
      split at few
      · rename_i same
        obtain rfl := beq_iff_eq.mp same
        have room := (le_longestRun character (run + 1) text).trans few
        have later := (ih few).cons
        rwa [show 2 - (run + 1) + 1 = 2 - run by omega] at later
      · rename_i differs
        exact .other 0 (Nat.zero_le _) (by simpa using differs) text

/-! ## Literal strings -/

theorem isPlain_of_not_needsCode {character : Char} (plain : needsCode character = false)
    (notLineFeed : character ≠ '\n') : isPlain character = true := by
  grind [needsCode, isPlain]

theorem readLiteral?_plain {character : Char} (plain : needsCode character = false)
    (notLineFeed : character ≠ '\n') (notQuote : character ≠ '\'') (rest : List Char) :
    readLiteral? (character :: rest) = (readLiteral? rest).map (consRead character) := by
  rw [readLiteral?, if_pos (isPlain_of_not_needsCode plain notLineFeed)]
  · rfl
  · exact notQuote

theorem readLongLiteral?_plain {character : Char} (plain : needsCode character = false)
    (notQuote : character ≠ '\'') (rest : List Char) :
    readLongLiteral? (character :: rest) = (readLongLiteral? rest).map (consRead character) := by
  by_cases lineFeed : character = '\n'
  · rw [lineFeed, readLongLiteral?]
    rfl
  · rw [readLongLiteral?, if_neg (by simpa using notQuote),
      if_pos (isPlain_of_not_needsCode plain lineFeed)]
    · rfl
    · exact lineFeed
    · rintro _ rfl
      cases plain

/-- The characters of a literal string are read back. -/
theorem readLiteral?_append {text : List Char} (rest : List Char)
    (plain : ∀ character ∈ text, needsCode character = false) (notLineFeed : '\n' ∉ text)
    (notQuote : '\'' ∉ text) : readLiteral? (text ++ '\'' :: rest) = some (text, rest) := by
  induction text with
  | nil => rw [List.nil_append, readLiteral?]
  | cons character text ih =>
      rw [List.mem_cons, not_or] at notLineFeed notQuote
      have later := ih (fun other listed => plain other (List.mem_cons_of_mem _ listed))
        notLineFeed.2 notQuote.2
      rw [List.cons_append, readLiteral?_plain (plain character List.mem_cons_self)
        (Ne.symm notLineFeed.1) (Ne.symm notQuote.1), later]
      rfl

/-- The characters of a literal string over several lines are read back. -/
theorem readLongLiteral?_append {text rest : List Char} {run : Nat}
    (plain : ∀ character ∈ text, needsCode character = false)
    (few : longestRun '\'' run text ≤ 2) (stops : rest.head? ≠ some '\'') :
    readLongLiteral? (text ++ '\'' :: '\'' :: '\'' :: rest) = some (text, rest) := by
  induction text generalizing run with
  | nil => exact read_closing readLongLiteral?_quote stops
  | cons character text ih =>
      have here := plain character List.mem_cons_self
      have others := fun other listed => plain other (List.mem_cons_of_mem _ listed)
      rw [longestRun] at few
      split at few
      · rename_i same
        obtain rfl := beq_iff_eq.mp same
        have one : FewQuotes '\'' 1 text text := (fewQuotes_of_longestRun few).mono (by omega)
        exact read_quote readLongLiteral?_quote stops one (ih others few)
      · rename_i differs
        have later := ih others ((Nat.le_max_right ..).trans few)
        rw [List.cons_append, readLongLiteral?_plain here (by simpa using differs), later]
        rfl

/-! ## Whole strings -/

/-- The forms in which a text can be written. -/
inductive Fits (text : List Char) : StringForm → Prop where
  | basic : Fits text .basic
  | literal (plain : ∀ character ∈ text, needsCode character = false) (notLineFeed : '\n' ∉ text)
      (notQuote : '\'' ∉ text) : Fits text .literal
  | longBasic : Fits text .longBasic
  | longLiteral (plain : ∀ character ∈ text, needsCode character = false)
      (few : longestRun '\'' 0 text ≤ 2) : Fits text .longLiteral

theorem fits_formOf (text : List Char) : Fits text (formOf text) := by
  have plain (codes : text.any needsCode = false) :
      ∀ character ∈ text, needsCode character = false := by
    intro character listed
    simpa using List.any_eq_false.mp codes character listed
  simp only [formOf]
  split
  · exact .basic
  · split
    · rename_i literal
      simp only [Bool.and_eq_true, Bool.not_eq_true', beq_iff_eq, List.contains_eq_mem,
        decide_eq_false_iff_not] at literal
      exact .literal (plain literal.1.1) literal.2 (notMem_of_longestRun literal.1.2)
    · split
      · exact .longBasic
      · split
        · rename_i literal
          simp only [Bool.and_eq_true, Bool.not_eq_true', decide_eq_true_eq] at literal
          exact .longLiteral (plain literal.1) literal.2
        · split
          · exact .longBasic
          · exact .basic

/-- The string that has been read. -/
def stringRead (read : List Char × List Char) : String × List Char :=
  (String.ofList read.1, read.2)

theorem readString?_basic {rest : List Char} (notLong : ∀ more, rest ≠ '"' :: '"' :: more) :
    readString? ('"' :: rest) = (readBasic? rest).map stringRead := by
  rw [readString?.eq_def]
  split
  · rename_i more form
    exact absurd (List.cons.inj form).2 (notLong more)
  · rename_i form
    rw [(List.cons.inj form).2]
    rfl
  · rename_i form
    cases form
  · rename_i form
    cases form
  · rename_i notBasic _ _
    exact absurd rfl (notBasic rest)

theorem readString?_literal {rest : List Char} (notLong : ∀ more, rest ≠ '\'' :: '\'' :: more) :
    readString? ('\'' :: rest) = (readLiteral? rest).map stringRead := by
  rw [readString?.eq_def]
  split
  · rename_i form
    cases form
  · rename_i form
    cases form
  · rename_i more form
    exact absurd (List.cons.inj form).2 (notLong more)
  · rename_i form
    rw [(List.cons.inj form).2]
    rfl
  · rename_i notLiteral
    exact absurd rfl (notLiteral rest)

theorem dropLineEnd?_none {first : Char} (notLineFeed : first ≠ '\n') (notCarriage : first ≠ '\r')
    (more : List Char) : dropLineEnd? (first :: more) = none := by
  rw [dropLineEnd?]
  · rintro _ ⟨⟩
    exact notLineFeed rfl
  · rintro _ ⟨⟩
    exact notCarriage rfl

/-- The line feed in front of a text with lines is skipped, and nothing else is. -/
theorem skipLineEnd_leadingLine {text written : List Char}
    (starts : '\n' ∉ text → dropLineEnd? written = none) :
    skipLineEnd (leadingLine text ++ written) = written := by
  by_cases lines : '\n' ∈ text
  · rw [leadingLine, if_pos (by simpa using lines)]
    rfl
  · rw [leadingLine, if_neg (by simpa using lines), List.nil_append, skipLineEnd, starts lines]
    rfl

/-- The characters of a basic string do not start with a quote that is read as a
closing one. -/
theorem head_escapeText (text rest : List Char) (notQuote : rest.head? ≠ some '"') :
    ∀ more, escapeText false 0 0 text ++ '"' :: rest ≠ '"' :: '"' :: more := by
  intro more
  cases text with
  | nil =>
      rintro ⟨⟩
      exact notQuote rfl
  | cons character text =>
      rw [escapeText]
      split
      · rintro ⟨⟩
      · rename_i other
        obtain ⟨first, others, written, differs, -⟩ :=
          escapeCharacter_head false character (by simpa using other)
        rw [written]
        intro same
        exact differs (List.cons.inj same).1

/-- A text in a form that fits is read back. -/
theorem readString?_writeForm {text : List Char} {form : StringForm} (fits : Fits text form)
    {rest : List Char} (notDouble : rest.head? ≠ some '"') (notSingle : rest.head? ≠ some '\'') :
    readString? (writeForm text form ++ rest) = some (String.ofList text, rest) := by
  cases fits with
  | basic =>
      have written : writeForm text .basic ++ rest =
          '"' :: (escapeText false 0 0 text ++ '"' :: rest) := by simp [writeForm]
      rw [written, readString?_basic (head_escapeText text rest notDouble),
        readBasic?_escapeText]
      rfl
  | literal plain notLineFeed notQuote =>
      have written : writeForm text .literal ++ rest = '\'' :: (text ++ '\'' :: rest) := by
        simp [writeForm]
      rw [written, readString?_literal, readLiteral?_append rest plain notLineFeed notQuote]
      · rfl
      · intro more
        cases text with
        | nil =>
            rintro ⟨⟩
            exact notSingle rfl
        | cons character text =>
            intro same
            exact notQuote ((List.cons.inj same).1 ▸ List.mem_cons_self)
  | longBasic =>
      have written : writeForm text .longBasic ++ rest = '"' :: '"' :: '"' ::
          (leadingLine text ++ (escapeText true 2 0 text ++ '"' :: '"' :: '"' :: rest)) := by
        simp [writeForm]
      have whole := readLongBasic?_escapeText text (Nat.zero_le 2) notDouble
      rw [written, readString?, skipLineEnd_leadingLine, whole]
      · rfl
      · intro oneLine
        cases text with
        | nil => rfl
        | cons character text =>
            rw [escapeText]
            split
            · rfl
            · rename_i other
              obtain ⟨first, more, written, -, notCarriage, lineFeed⟩ :=
                escapeCharacter_head true character (by simpa using other)
              have notLineFeed : first ≠ '\n' := by
                intro isLineFeed
                exact oneLine (lineFeed isLineFeed ▸ List.mem_cons_self)
              rw [written]
              exact dropLineEnd?_none notLineFeed notCarriage _
  | longLiteral plain few =>
      have written : writeForm text .longLiteral ++ rest = '\'' :: '\'' :: '\'' ::
          (leadingLine text ++ (text ++ '\'' :: '\'' :: '\'' :: rest)) := by
        simp [writeForm]
      rw [written, readString?, skipLineEnd_leadingLine,
        readLongLiteral?_append plain few notSingle]
      · rfl
      · intro oneLine
        cases text with
        | nil => rfl
        | cons character text =>
            refine dropLineEnd?_none ?_ ?_ _
            · rintro rfl
              exact oneLine List.mem_cons_self
            · rintro rfl
              exact absurd (plain '\r' List.mem_cons_self) (by decide)

/-- **A written string is read back**, unless another quote follows it. -/
theorem readString?_writeString (text : String) {rest : List Char}
    (notDouble : rest.head? ≠ some '"') (notSingle : rest.head? ≠ some '\'') :
    readString? (writeString text ++ rest) = some (text, rest) := by
  rw [writeString, readString?_writeForm (fits_formOf _) notDouble notSingle, String.ofList_toList]

end DiagnosticReport.Toml
