import DiagnosticReport.Uri.Name.CharacterTable

/-!
# The direction of host names

Letters run from left to right or from right to left, and digits and signs
follow them by rules of their own.  A name with a character that does not run
from left to right shows its labels in an order that cannot be mistaken only if
every label keeps to one direction; `keepsDirection` is that test.
-/

set_option autoImplicit false

namespace DiagnosticReport.Uri.Name

/-- How a character runs. -/
inductive Direction where
  | leftToRight
  | rightToLeft
  /-- A digit as in Arabic. -/
  | arabicNumber
  /-- A digit as in European scripts. -/
  | europeanNumber
  /-- A sign that runs as what surrounds it. -/
  | neutral
  /-- A mark, which runs as its letter. -/
  | mark
  deriving DecidableEq, Repr

/-- How a character runs. -/
def Direction.ofCharacter (character : Char) : Direction :=
  if nonspacingMarks.contains character && !widthChanging.contains character then .mark
  else if rightToLeftLetters.contains character then .rightToLeft
  else if arabicNumbers.contains character then .arabicNumber
  else if europeanNumbers.contains character then .europeanNumber
  else if undirected.contains character then .neutral
  else .leftToRight

/-- Whether a name with this character has to keep its directions. -/
def setsDirection (character : Char) : Bool :=
  match Direction.ofCharacter character with
  | .rightToLeft => true
  | .arabicNumber => true
  | _ => false

/-- Whether characters that start with a letter keep to its direction.  From
left to right there are no letters of the other direction and no digits as in
Arabic, and a letter or a digit ends the label.  From right to left there are no
letters of the other direction, a letter or a digit ends the label, and all
digits are of one kind.  Marks at the end do not count. -/
def keepsDirection (label : List Char) : Bool :=
  let directions := label.map Direction.ofCharacter
  let last := (directions.reverse.dropWhile (· == .mark)).head?
  match directions.head? with
  | none => true
  | some .leftToRight =>
      directions.all (fun direction => direction != .rightToLeft && direction != .arabicNumber) &&
        last.any fun direction => direction == .leftToRight || direction == .europeanNumber
  | some .rightToLeft =>
      !directions.contains .leftToRight &&
        (last.any fun direction => direction != .neutral) &&
        !(directions.contains .arabicNumber && directions.contains .europeanNumber)
  | some _ => false

end DiagnosticReport.Uri.Name
