/-!
# Decimal numbers and doubles

A number written in a document is a whole significand times a power of ten.
The only question asked about it here is whether it is within the range of the
doubles.  There are two measures.

`isFiniteDouble` takes the number as it is: its nearest double is finite.

`isWithinDoubles` takes the number as a quick reader computes it: the leading
digits, as many as stay below `2 ^ 64`, are rounded to a double, so is the power
of ten that puts the point where it belongs, and the product of the two has a
finite double.  Near the greatest double the two roundings can go either way, so
neither measure implies the other.

A double is infinite from the middle between the greatest double and the next
power of two on, because a tie goes to the even side.
-/

set_option autoImplicit false

namespace DiagnosticReport.Decimal

/-- The value of a decimal digit. -/
def ofDigit (digit : Char) : Nat := digit.toNat - '0'.toNat

/-- The value of a run of ASCII digits. -/
def ofDigits (digits : List Char) : Nat :=
  digits.foldl (fun value digit => 10 * value + ofDigit digit) 0

/-- The least number whose nearest double is infinite. -/
def doubleLimit : Nat := Nat.pow 2 1024 - Nat.pow 2 970

/-! ## The number as it is -/

/-- Whether the double nearest to `significand * 10 ^ exponent` is finite.  The
tests in front of each power only keep the power small. -/
def isFiniteDouble (significand : Nat) : Int → Bool
  | .ofNat exponent =>
      significand == 0 || (exponent ≤ 308 && significand * Nat.pow 10 exponent < doubleLimit)
  | .negSucc exponent =>
      significand.log2 ≤ exponent || significand < doubleLimit * Nat.pow 10 (exponent + 1)

/-! ## The number as a product of doubles -/

/-- The multiple of `unit` nearest to a value; of two, the one with the even
quotient. -/
def roundTo (unit value : Nat) : Nat :=
  let quotient := value / unit
  let remainder := value % unit
  if 2 * remainder > unit || (2 * remainder == unit && quotient % 2 == 1) then
    (quotient + 1) * unit
  else quotient * unit

/-- The double nearest to a whole number, which has fifty-three binary digits
that count. -/
def nearestDouble (value : Nat) : Nat := roundTo (Nat.pow 2 (value.log2 - 52)) value

/-- How much a significand of whole digits may be: it stays below this. -/
def significandLimit : Nat := UInt64.size

/-- A significand continued by as many digits as keep it below its limit, and
the digits that are left. -/
def extend (significand : Nat) : List Char → Nat × List Char
  | [] => (significand, [])
  | digit :: rest =>
      let next := 10 * significand + ofDigit digit
      if next < significandLimit then extend next rest else (significand, digit :: rest)

/-- Whether a significand times a power of ten is finite as a product of two
doubles.  No double holds a greater power of ten than the one with exponent 308,
and a product with a lesser power than one is smaller than the significand. -/
def isFiniteProduct (significand : Nat) : Int → Bool
  | .ofNat exponent =>
      significand == 0 ||
        (exponent ≤ 308 &&
          nearestDouble significand * nearestDouble (Nat.pow 10 exponent) < doubleLimit)
  | .negSucc _ => true

/-- Whether the number with these digits before and behind its point, times a
power of ten, is within the doubles.  A whole digit that is left over counts as
a power of ten.  Digits behind the point go on with the significand, even if
whole digits were left over. -/
def isWithinDoubles (whole fraction : List Char) (exponent : Int) : Bool :=
  let (leading, surplus) := extend 0 whole
  let (significand, unread) := extend leading fraction
  isFiniteProduct significand
    (exponent + surplus.length - (fraction.length - unread.length : Nat))

end DiagnosticReport.Decimal
