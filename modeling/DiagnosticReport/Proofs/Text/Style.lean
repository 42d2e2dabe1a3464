import DiagnosticReport.Proofs.Decimal
import DiagnosticReport.Proofs.Text.EscapeSeparation
import DiagnosticReport.Text.Style

/-!
# Painted texts without their escape sequences

The opening sequence of a style is a list of codes with the final character `m`. A
code has four digits at most, so the sequence is read as it was written, unless a
bell tail is found first: the codes and the `m` are the front of a payload too, and
the text behind them could complete it. It cannot if no bell is in reach. Then the
removal of escape sequences leaves what stands behind the opening
(`stripEscapes_opening`), and of a painted text it leaves the text
(`stripEscapes_paint`).
-/

set_option autoImplicit false

namespace DiagnosticReport.Text

/-! ## Codes -/

theorem isDecimalDigit_of_isDigit {character : Char} (digit : character.isDigit = true) :
    isDecimalDigit character = true := by
  rw [Char.isDigit, Bool.and_eq_true, decide_eq_true_eq, decide_eq_true_eq] at digit
  have low : 0x30 ≤ character.toNat := digit.1
  have high : character.toNat ≤ 0x39 := digit.2
  rw [isDecimalDigit, List.any_eq_true]
  refine ⟨0x30, by decide, ?_⟩
  rw [Bool.and_eq_true, decide_eq_true_eq, decide_eq_true_eq]
  omega

theorem parameters_digit_cons {digit : Char} (isDigit : isDecimalDigit digit = true) (room : Nat)
    (rest : List Char) :
    parameters (room + 1) (digit :: rest) =
      (digit :: (parameters room rest).1, (parameters room rest).2) := by
  simp [parameters, isDigit]

theorem parameters_semicolon_cons (room : Nat) (rest : List Char) :
    parameters room (';' :: rest) = (';' :: (parameters 4 rest).1, (parameters 4 rest).2) := by
  have noDigit : isDecimalDigit ';' = false := by decide
  simp [parameters, noDigit]

/-- A number of few digits is read as one. -/
theorem parameters_digits {digits : List Char}
    (all : ∀ character ∈ digits, isDecimalDigit character = true) {room : Nat}
    (fits : digits.length ≤ room) (rest : List Char) :
    parameters room (digits ++ rest) =
      (digits ++ (parameters (room - digits.length) rest).1,
        (parameters (room - digits.length) rest).2) := by
  induction digits generalizing room with
  | nil => rfl
  | cons digit digits ih =>
      obtain ⟨here, later⟩ := List.forall_mem_cons.mp all
      cases room with
      | zero => cases fits
      | succ room =>
          rw [List.cons_append, parameters_digit_cons here,
            ih later (Nat.le_of_succ_le_succ fits), List.length_cons, Nat.add_sub_add_right]
          rfl

theorem isIntroducer_of_isDecimalDigit {character : Char}
    (member : isDecimalDigit character = true) : isIntroducer character = false := by
  cases introduces : isIntroducer character with
  | false => rfl
  | true =>
      simp only [isIntroducer, Bool.or_eq_true, beq_iff_eq] at introduces
      rcases introduces with (((((rfl | rfl) | rfl) | rfl) | rfl) | rfl) | rfl
      all_goals exact absurd member (by decide)

/-- A numeric tail that starts with no semicolon is a parameter list and what closes
it. -/
theorem afterNumericTail?_eq {first : Char} (plain : isIntroducer first = false)
    (text : List Char) :
    afterNumericTail? (first :: text) =
      afterClosing? (parameters 4 (first :: text)).1 (parameters 4 (first :: text)).2 := by
  have semicolon : (first == ';') = false := by grind [isIntroducer]
  rw [afterNumericTail?_cons]
  split
  · rfl
  · rename_i noDigit
    simp [parameters, noDigit, semicolon]

/-- A parameter list holds digits and semicolons. -/
theorem inArguments_of_mem_parameters {room : Nat} {text : List Char} {character : Char}
    (member : character ∈ (parameters room text).1) : inArguments character = true := by
  induction text generalizing room with
  | nil => cases member
  | cons first text ih =>
      cases digit : isDecimalDigit first with
      | true =>
          cases room with
          | zero => simp [parameters, digit] at member
          | succ room =>
              rw [parameters_digit_cons digit] at member
              rcases List.mem_cons.mp member with rfl | later
              · exact inArguments_of_isDecimalDigit digit
              · exact ih later
      | false =>
          by_cases semicolon : first = ';'
          · subst semicolon
            rw [parameters_semicolon_cons] at member
            rcases List.mem_cons.mp member with rfl | later
            · rfl
            · exact ih later
          · simp [parameters, digit, semicolon] at member

namespace Style

/-- The codes of a style with semicolons between them. -/
def codeList (codes : List Nat) : List Char :=
  [';'].intercalate (codes.map fun code => (toString code).toList)

/-- A style whose codes have no more digits than a parameter may have. -/
def Short (style : Style) : Prop := ∀ code ∈ style.codes, code < 10000

instance (style : Style) : Decidable style.Short :=
  inferInstanceAs (Decidable (∀ code ∈ style.codes, code < 10000))

/-- The digits of a code. -/
theorem isDecimalDigit_of_mem_code {code : Nat} {character : Char}
    (member : character ∈ (toString code).toList) : isDecimalDigit character = true := by
  rw [Nat.toString_eq_ofList_toDigits, String.toList_ofList] at member
  exact isDecimalDigit_of_isDigit (Decimal.isDigit_of_mem_toDigits member)

theorem codeList_singleton (code : Nat) : codeList [code] = (toString code).toList := by
  rw [codeList, List.map_singleton, List.intercalate_singleton]

theorem codeList_cons_cons (code next : Nat) (codes : List Nat) :
    codeList (code :: next :: codes) =
      (toString code).toList ++ ';' :: codeList (next :: codes) := by
  rw [codeList, List.map_cons, List.map_cons, List.intercalate_cons_cons, List.append_assoc,
    List.singleton_append]
  rfl

/-- The codes of a style are read as its parameters. -/
theorem parameters_codeList {codes : List Nat} (short : ∀ code ∈ codes, code < 10000)
    (rest : List Char) :
    parameters 4 (codeList codes ++ 'm' :: rest) = (codeList codes, 'm' :: rest) := by
  have final (room : Nat) : parameters room ('m' :: rest) = ([], 'm' :: rest) := by
    have noDigit : isDecimalDigit 'm' = false := by decide
    simp [parameters, noDigit]
  induction codes with
  | nil => exact final 4
  | cons code codes ih =>
      obtain ⟨here, later⟩ := List.forall_mem_cons.mp short
      have all : ∀ character ∈ (toString code).toList, isDecimalDigit character = true :=
        fun _ => isDecimalDigit_of_mem_code
      have fits : (toString code).toList.length ≤ 4 := by
        rw [Nat.toString_eq_ofList_toDigits, String.toList_ofList,
          Nat.length_toDigits_le_iff (by decide) (by decide)]
        exact here
      cases codes with
      | nil =>
          rw [codeList_singleton, parameters_digits all fits, final, List.append_nil]
      | cons next codes =>
          rw [codeList_cons_cons, List.append_assoc, List.cons_append, parameters_digits all fits,
            parameters_semicolon_cons, ih later]

/-- The first code stands in front. -/
theorem code_prefix_codeList (code : Nat) (codes : List Nat) :
    (toString code).toList <+: codeList (code :: codes) := by
  cases codes with
  | nil => exact codeList_singleton code ▸ List.prefix_rfl
  | cons next codes =>
      rw [codeList_cons_cons]
      exact List.prefix_append _ _

/-- Nothing of an opening behind its bracket is read as an introducer. -/
theorem exists_codeList_append (codes : List Nat) (rest : List Char) :
    ∃ first others, codeList codes ++ 'm' :: rest = first :: others ∧
      isIntroducer first = false := by
  cases codes with
  | nil => exact ⟨'m', rest, rfl, by decide⟩
  | cons code codes =>
      obtain ⟨more, cut⟩ := code_prefix_codeList code codes
      obtain ⟨digit, digits, written⟩ : ∃ digit digits, (toString code).toList = digit :: digits := by
        rw [Nat.toString_eq_ofList_toDigits, String.toList_ofList]
        exact List.exists_cons_of_ne_nil Nat.toDigits_ne_nil
      refine ⟨digit, digits ++ (more ++ 'm' :: rest), ?_, ?_⟩
      · rw [← cut, written, List.append_assoc, List.cons_append]
      · exact isIntroducer_of_isDecimalDigit
          (isDecimalDigit_of_mem_code (by rw [written]; exact List.mem_cons_self))

/-- An opening is read up to its final character. -/
theorem afterStart?_codeList {codes : List Nat} (short : ∀ code ∈ codes, code < 10000)
    {rest : List Char} (silent : ¬ ReachesBell rest) :
    afterStart? ('[' :: (codeList codes ++ 'm' :: rest)) = some rest := by
  have whole := parameters_codeList short rest
  have inside : ∀ character ∈ codeList codes ++ ['m'], inArguments character = true := by
    intro character member
    rcases List.mem_append.mp member with code | final
    · exact inArguments_of_mem_parameters (by rw [whole]; exact code)
    · rw [List.mem_singleton.mp final]
      decide
  have noBellTail : afterBellTail? (codeList codes ++ 'm' :: rest) = none := by
    apply afterBellTail?_eq_none
    rwa [List.append_cons, reachesBell_append inside]
  obtain ⟨first, others, cut, plain⟩ := exists_codeList_append codes rest
  have tail : afterStart? (codeList codes ++ 'm' :: rest) = some rest := by
    rw [cut] at noBellTail whole ⊢
    rw [afterStart?, if_neg (by simp [plain]), afterTail?, noBellTail, Option.none_or,
      afterNumericTail?_eq plain, whole]
    rfl
  rw [afterStart?, if_pos (by decide), tail]
  rfl

/-- **An opening is removed**, and nothing behind it, if no bell is in reach. -/
theorem stripEscapes_opening {style : Style} (short : style.Short) {rest : List Char}
    (silent : ¬ ReachesBell rest) : stripEscapes (style.opening ++ rest) = stripEscapes rest := by
  have parts : style.opening ++ rest =
      '\x1b' :: '[' :: (codeList style.codes ++ 'm' :: rest) := by
    simp [opening, codeList]
  rw [parts]
  exact stripEscapes_found (by decide) (afterStart?_codeList short silent)

/-! ## Painted texts -/

/-- A text without starts holds no reset. -/
theorem reopen_of_no_start (sequence : List Char) {text : List Char}
    (plain : ∀ character ∈ text, startsEscape character = false) :
    reopen sequence text = text := by
  fun_induction reopen sequence text with
  | case1 => rfl
  | case2 rest ih => exact absurd (plain '\x1b' List.mem_cons_self) (by decide)
  | case3 character rest other ih =>
      rw [ih fun later member => plain later (List.mem_cons_of_mem _ member)]

/-- What is painted is a style's opening, the text and a reset. -/
theorem toList_paint (style : Style) {text : String}
    (plain : ∀ character ∈ text.toList, startsEscape character = false) :
    (style.paint true text).toList = style.opening ++ text.toList ++ reset := by
  rw [paint, if_pos rfl, String.toList_ofList, reopen_of_no_start _ plain]

/-- **Paint is removed and the text is left.** What stands in front of it and what
stands behind the reset are on their own. -/
theorem stripEscapes_paint {style : Style} (short : style.Short) {text : String}
    (plain : ∀ character ∈ text.toList, startsEscape character = false)
    (silent : ¬ ReachesBell text.toList) (front rest : List Char) :
    stripEscapes (front ++ ((style.paint true text).toList ++ rest)) =
      stripEscapes front ++ (text.toList ++ stripEscapes (reset ++ rest)) := by
  have start : stopsReading '\x1b' = true := by decide
  rw [toList_paint style plain, List.append_assoc, List.append_assoc]
  calc stripEscapes (front ++ (style.opening ++ (text.toList ++ (reset ++ rest))))
      = stripEscapes front ++ stripEscapes ((style.opening ++ text.toList) ++ (reset ++ rest)) := by
        rw [List.append_assoc]
        exact stripEscapes_append_stop start front _
    _ = stripEscapes front ++
          (stripEscapes (style.opening ++ text.toList) ++ stripEscapes (reset ++ rest)) := by
        congr 1
        exact stripEscapes_append_stop start (style.opening ++ text.toList) _
    _ = stripEscapes front ++ (text.toList ++ stripEscapes (reset ++ rest)) := by
        rw [stripEscapes_opening short silent, stripEscapes_of_no_start plain]

theorem stripEscapes_reset : stripEscapes reset = [] := by cbv

end Style

end DiagnosticReport.Text
