import DiagnosticReport.Decimal

/-!
# Numbers and their digits

The digits of a number denote the number. A text can hold several numbers, each
a longest run of digits (`numbersIn`); they are read off piece by piece, since no
number reaches over a character that is no digit.

The digits of a 64-bit number all fit into a significand, and the nearest double
is at most twice the number, so such a number is within the doubles
(`isWithinDoubles_toDigits`).
-/

set_option autoImplicit false

namespace DiagnosticReport.Decimal

/-! ## One number -/

theorem ofDigits_toDigits (number : Nat) : ofDigits (Nat.toDigits 10 number) = number := by
  have value := @Nat.ofDigitChars_ten_toDigits number
  rw [Nat.ofDigitChars_eq_foldl] at value
  exact value

theorem isDigit_of_mem_toDigits {number : Nat} {digit : Char}
    (member : digit ∈ Nat.toDigits 10 number) : digit.isDigit = true :=
  Nat.isDigit_of_mem_toDigits (by decide) (by decide) member

/-! ## All numbers of a text -/

/-- The numbers of a text, each a longest run of digits. -/
def numbersIn (text : List Char) : List Nat :=
  ((text.splitOnP fun character => !character.isDigit).filter fun run => !run.isEmpty).map
    ofDigits

theorem numbersIn_append_cons (before after : List Char) {between : Char}
    (notDigit : between.isDigit = false) :
    numbersIn (before ++ between :: after) = numbersIn before ++ numbersIn after := by
  rw [numbersIn, List.splitOnP_append_cons before after (by simp [notDigit]),
    List.filter_append, List.map_append]
  rfl

theorem numbersIn_toDigits (number : Nat) : numbersIn (Nat.toDigits 10 number) = [number] := by
  have oneRun : (Nat.toDigits 10 number).splitOnP (fun character => !character.isDigit) =
      [Nat.toDigits 10 number] :=
    List.splitOnP_eq_singleton fun digit member => by simp [isDigit_of_mem_toDigits member]
  have notEmpty : (Nat.toDigits 10 number).isEmpty = false :=
    List.isEmpty_eq_false_iff.mpr Nat.toDigits_ne_nil
  rw [numbersIn, oneRun, List.filter_cons_of_pos (by simp [notEmpty]), List.filter_nil,
    List.map_singleton, ofDigits_toDigits]

theorem numbersIn_of_no_digit {text : List Char} (noDigit : text.any Char.isDigit = false) :
    numbersIn text = [] := by
  induction text with
  | nil => rfl
  | cons character text ih =>
      rw [List.any_cons, Bool.or_eq_false_iff] at noDigit
      have whole := numbersIn_append_cons [] text noDigit.1
      rw [List.nil_append, ih noDigit.2] at whole
      exact whole

/-! ## Within the doubles -/

theorem le_foldl_digits (digits : List Char) (value : Nat) :
    value ≤ digits.foldl (fun value digit => 10 * value + ofDigit digit) value := by
  induction digits generalizing value with
  | nil => exact Nat.le_refl _
  | cons digit digits ih =>
      have next := ih (10 * value + ofDigit digit)
      rw [List.foldl_cons]
      omega

/-- A significand takes up all digits if the number they go on with is below its limit. -/
theorem extend_eq {digits : List Char} {significand : Nat}
    (below : digits.foldl (fun value digit => 10 * value + ofDigit digit) significand <
      significandLimit) :
    extend significand digits =
      (digits.foldl (fun value digit => 10 * value + ofDigit digit) significand, []) := by
  induction digits generalizing significand with
  | nil => rfl
  | cons digit digits ih =>
      rw [List.foldl_cons] at below ⊢
      have next := le_foldl_digits digits (10 * significand + ofDigit digit)
      rw [extend, if_pos (by omega), ih below]

theorem roundTo_le (unit value : Nat) : roundTo unit value ≤ value + unit := by
  have floor := Nat.div_mul_le_self value unit
  have ceiling : (value / unit + 1) * unit = value / unit * unit + unit := by
    rw [Nat.add_mul, Nat.one_mul]
  rw [roundTo]
  split <;> omega

theorem nearestDouble_le {value : Nat} (positive : value ≠ 0) : nearestDouble value ≤ 2 * value := by
  have rounded := roundTo_le (2 ^ (value.log2 - 52)) value
  have unit : 2 ^ (value.log2 - 52) ≤ 2 ^ value.log2 :=
    Nat.pow_le_pow_right (by decide) (Nat.sub_le _ _)
  have whole := Nat.log2_self_le positive
  rw [nearestDouble, Nat.pow_eq]
  omega

/-- A whole number of 64 bits is within the doubles. -/
theorem isWithinDoubles_toDigits {number : Nat} (below : number < UInt64.size) :
    isWithinDoubles (Nat.toDigits 10 number) [] 0 = true := by
  have taken : extend 0 (Nat.toDigits 10 number) = (number, []) := by
    have value : (Nat.toDigits 10 number).foldl (fun value digit => 10 * value + ofDigit digit) 0 =
        number := ofDigits_toDigits number
    rw [extend_eq (by rwa [value]), value]
  rw [isWithinDoubles, taken]
  show isFiniteProduct number (.ofNat 0) = true
  rw [isFiniteProduct]
  by_cases zero : number = 0
  · rw [zero]
    rfl
  · have size := nearestDouble_le zero
    have one : nearestDouble (Nat.pow 10 0) = 1 := by decide +kernel
    have room : 2 * UInt64.size < doubleLimit := by decide +kernel
    have small : nearestDouble number * nearestDouble (Nat.pow 10 0) < doubleLimit := by
      rw [one]
      omega
    rw [decide_eq_true small, Bool.and_true]
    exact Bool.or_true _

end DiagnosticReport.Decimal
