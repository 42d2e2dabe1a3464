import DiagnosticReport.Checker
import DiagnosticReport.Proofs.Decimal
import DiagnosticReport.Summary

/-!
# The numbers of a summary

A summary line holds two numbers and no other digit: the errors and the
warnings it was made of (`numbersIn_compose`). So the line tells both.
-/

set_option autoImplicit false

namespace DiagnosticReport.Summary

open DiagnosticReport.Decimal

theorem toList_quantity (count : Nat) (noun : String) :
    (quantity count noun).toList =
      Nat.toDigits 10 count ++ ' ' :: (noun ++ if count > 1 then "s" else "").toList := by
  simp [quantity, String.toList_append]

theorem numbersIn_quantity {count : Nat} {noun : String}
    (noDigit : noun.toList.any Char.isDigit = false) :
    numbersIn (quantity count noun).toList = [count] := by
  have plural : (noun ++ if count > 1 then "s" else "").toList.any Char.isDigit = false := by
    rw [String.toList_append, List.any_append, noDigit, Bool.false_or]
    split <;> rfl
  rw [toList_quantity, numbersIn_append_cons _ _ (by decide), numbersIn_toDigits,
    numbersIn_of_no_digit plural]
  rfl

/-- **A summary tells its counts**, whatever checker it names. -/
theorem numbersIn_compose (checker : Checker) (counts : Counts) :
    numbersIn (compose checker.name counts).text.toList = [counts.errors, counts.warnings] := by
  have parts : (compose checker.name counts).text.toList =
      ("[" ++ checker.name ++ "] Found").toList ++ ' ' ::
        ((quantity counts.errors "error").toList ++ ' ' ::
          ("and".toList ++ ' ' :: (quantity counts.warnings "warning").toList)) := by
    simp [compose, behindName]
  have opening : ("[" ++ checker.name ++ "] Found").toList.any Char.isDigit = false := by
    cases checker <;> decide
  rw [parts, numbersIn_append_cons _ _ (by decide), numbersIn_append_cons _ _ (by decide),
    numbersIn_append_cons _ _ (by decide), numbersIn_of_no_digit opening,
    @numbersIn_of_no_digit "and".toList (by decide), numbersIn_quantity (by decide),
    numbersIn_quantity (by decide)]
  rfl

end DiagnosticReport.Summary
