/-!
# Sets of characters

A `CharacterSet` is a list of ranges of code points.  Large sets are given by a
text with the ranges in hexadecimal, such as `300-36F 483`, where a range of one
character is written as that character alone.

The readers of such texts do not fail: a digit that is none counts as zero.  The
texts are constants of this library.
-/

set_option autoImplicit false

namespace DiagnosticReport.Text

/-! ## Reading tables -/

/-- The value of a hexadecimal digit; zero for any other character. -/
def hexadecimalDigit (digit : Char) : Nat :=
  if digit.isDigit then digit.toNat - '0'.toNat
  else if 'A' ≤ digit && digit ≤ 'F' then digit.toNat - 'A'.toNat + 10
  else 0

/-- The number that hexadecimal digits write. -/
def ofHexadecimal (digits : List Char) : Nat :=
  digits.foldl (fun value digit => value * 16 + hexadecimalDigit digit) 0

/-- The words of a text, between spaces and line feeds. -/
def words (text : String) : List (List Char) :=
  ((text.toList.map fun character => if character == '\n' then ' ' else character).splitOn
    ' ').filter fun word => !word.isEmpty

/-- What stands before a mark and what stands behind it; nothing stands behind a
mark that is missing. -/
def splitAtMark (mark : Char) (word : List Char) : List Char × List Char :=
  (word.takeWhile (· != mark), (word.dropWhile (· != mark)).drop 1)

/-- The first and the last number of a range such as `300-36F` or `483`. -/
def readRange (word : List Char) : Nat × Nat :=
  let (first, last) := splitAtMark '-' word
  (ofHexadecimal first, ofHexadecimal (if last.isEmpty then first else last))

/-! ## Sets -/

/-- A set of characters. -/
structure CharacterSet where
  /-- The first and the last code point of each range. -/
  ranges : List (Nat × Nat)
  deriving DecidableEq, Repr

namespace CharacterSet

/-- The set that a text of ranges describes. -/
def ofText (text : String) : CharacterSet := ⟨(words text).map readRange⟩

/-- Whether a character is in a set. -/
def contains (characters : CharacterSet) (character : Char) : Bool :=
  characters.ranges.any fun (first, last) =>
    first ≤ character.toNat && character.toNat ≤ last

end CharacterSet

end DiagnosticReport.Text
