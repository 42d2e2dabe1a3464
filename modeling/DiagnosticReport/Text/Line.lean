/-!
# Lines and offsets

A text is cut into lines at five separators: line feed, carriage return, the
pair of both, and the two Unicode separators U+2028 and U+2029.  Two questions
are answered here, each by its own walk over the text: what the lines are
(`splitLines`), and on which line and how far into it an offset lies
(`pointAt`).  Lengths and offsets count characters.

An offset between the two characters of a pair still belongs to the line that
the pair ends, one past its last character.  An offset beyond the text is the
offset of its end.
-/

set_option autoImplicit false

namespace DiagnosticReport.Text

/-- The characters that end a line on their own. -/
def isLineBreak (character : Char) : Bool :=
  character == '\n' || character == '\r' || character == '\u2028' || character == '\u2029'

/-- One more character in front of the first of the lines. -/
def consFirst (character : Char) : List (List Char) → List (List Char)
  | [] => [[character]]
  | line :: lines => (character :: line) :: lines

/-- The lines of a text, without their separators.  There is always at least
one. -/
def splitLines : List Char → List (List Char)
  | [] => [[]]
  | '\r' :: '\n' :: rest => [] :: splitLines rest
  | character :: rest =>
      if isLineBreak character then [] :: splitLines rest
      else consFirst character (splitLines rest)

/-- A place in a text: the number of lines before it and the number of
characters before it on its own line. -/
structure Point where
  /-- How many lines come before. -/
  line : Nat
  /-- How many characters of the line come before. -/
  column : Nat
  deriving DecidableEq, Repr

/-- The point that lies `offset` characters after `here`, where `text` is what
follows `here`. -/
def pointFrom (here : Point) : List Char → Nat → Point
  | [], _ => here
  | _, 0 => here
  | '\r' :: '\n' :: _, 1 => { here with column := here.column + 1 }
  | '\r' :: '\n' :: rest, offset + 2 => pointFrom ⟨here.line + 1, 0⟩ rest offset
  | character :: rest, offset + 1 =>
      if isLineBreak character then pointFrom ⟨here.line + 1, 0⟩ rest offset
      else pointFrom { here with column := here.column + 1 } rest offset

/-- The point of an offset into a text. -/
def pointAt (text : List Char) (offset : Nat) : Point :=
  pointFrom ⟨0, 0⟩ text offset

end DiagnosticReport.Text
