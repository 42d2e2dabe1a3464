/-!
# Encoded labels

A label with characters beyond ASCII can be written in ASCII: its ASCII
characters come first, and behind the last hyphen follow numbers, each of which
says which character to insert next, and where.  `Punycode.decode?` reads such a
text.

A number is written with the least digit first.  There are thirty-six digits,
and a digit below the threshold of its place ends the number.  The thresholds
follow a bias, which is adapted after every number to the size of the last one.
All numbers stay below `2 ^ 32`; a text that needs a greater one is refused.
-/

set_option autoImplicit false

namespace DiagnosticReport.Uri.Name.Punycode

/-- How many digits there are. -/
def base : Nat := 36

/-- The greatest threshold. -/
def greatestThreshold : Nat := 26

/-- The greatest number. -/
def greatestNumber : Nat := UInt32.size - 1

/-- The value of a digit: letters come before digits. -/
def digitValue? (digit : Char) : Option Nat :=
  if 'a' ≤ digit && digit ≤ 'z' then some (digit.toNat - 'a'.toNat)
  else if digit.isDigit then some (digit.toNat - '0'.toNat + 26)
  else none

/-- The threshold of the place with this index, where the least place has the
index thirty-six and every further one thirty-six more. -/
def threshold (bias index : Nat) : Nat :=
  if index ≤ bias then 1
  else if bias + greatestThreshold ≤ index then greatestThreshold
  else index - bias

/-- What the digits of a number add to a value, and the text behind them.  The
digit that comes next stands for so many times its value as `weight` says. -/
def readNumber? (bias index weight value : Nat) : List Char → Option (Nat × List Char)
  | [] => none
  | character :: rest => do
      let digit ← digitValue? character
      let next := value + digit * weight
      let limit := threshold bias index
      if next > greatestNumber then none
      else if digit < limit then some (next, rest)
      else if weight * (base - limit) > greatestNumber then none
      else readNumber? bias (index + base) (weight * (base - limit)) next rest

/-- The text behind a number is shorter than the number and that text. -/
theorem length_of_readNumber? {bias index weight value result : Nat} {text rest : List Char}
    (read : readNumber? bias index weight value text = some (result, rest)) :
    rest.length < text.length := by
  induction text generalizing index weight value with
  | nil => simp [readNumber?] at read
  | cons character tail ih =>
    simp only [readNumber?, Option.bind_eq_bind, Option.bind_eq_some_iff] at read
    obtain ⟨digit, -, read⟩ := read
    split at read
    · simp at read
    · split at read
      · simp only [Option.some.injEq, Prod.mk.injEq] at read
        simp [read.2]
      · split at read
        · simp at read
        · have := ih read
          simp only [List.length_cons]
          omega

/-- The bias after a number has been scaled down by thirty-five until it is
small. -/
def scaledBias (index number : Nat) : Nat :=
  if 455 < number then scaledBias (index + base) (number / 35)
  else index + base * number / (number + 38)
termination_by number
decreasing_by omega

/-- The bias behind a number of this size, when the text has `count` characters.
The first number is damped the most. -/
def adapt (number count : Nat) (isFirst : Bool) : Nat :=
  let damped := if isFirst then number / 700 else number / 2
  scaledBias 0 (damped + damped / count)

/-- The character with a code point; none if there is no such character. -/
def character? (code : Nat) : Option Char :=
  if code.isValidChar then some (.ofNat code) else none

/-- The text with the characters that the numbers insert.  `code` is the last
code point and `position` the place behind the last insertion. -/
def insertAll? (bias code position : Nat) (text : List Char) (numbers : List Char) :
    Option (List Char) :=
  match numbers with
  | [] => some text
  | first :: others =>
      match read : readNumber? bias base 1 position (first :: others) with
      | none => none
      | some (value, rest) =>
          have : rest.length < (first :: others).length := length_of_readNumber? read
          let count := text.length + 1
          let code := code + value / count
          match character? code with
          | none => none
          | some character =>
              insertAll? (adapt (value - position) count (position == 0)) code
                (value % count + 1) (text.insertIdx (value % count) character) rest
termination_by numbers.length
decreasing_by exact this

/-- The label that a text stands for.  A hyphen at the very start is no end of
the ASCII characters. -/
def decode? (text : List Char) : Option (List Char) :=
  let numbers := (text.reverse.takeWhile (· != '-')).reverse
  let plain := text.take (text.length - numbers.length - 1)
  if plain.any (0x80 ≤ ·.toNat) then none
  else if plain.isEmpty then insertAll? 72 0x80 0 [] text
  else insertAll? 72 0x80 0 plain numbers

end DiagnosticReport.Uri.Name.Punycode
