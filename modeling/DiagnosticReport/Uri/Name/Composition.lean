import DiagnosticReport.Text.CharacterSet
import DiagnosticReport.Uri.Name.CompositionTable

/-!
# The composition of characters in host names

A letter with marks can be written as one character or as several.  In a name it
is written with as few as possible.  `compose` brings a text to that form: every
character is taken apart, the marks behind a letter are ordered by their class,
and then a letter takes up each mark with which it forms a character, unless a
mark of the same or a greater class stands between them.

Korean syllables follow a rule of their own and are not in the table.
-/

set_option autoImplicit false

namespace DiagnosticReport.Uri.Name

/-! ## The table -/

/-- Two characters that are written as one. -/
structure Composite where
  first : Char
  second : Char
  /-- The character that stands for both. -/
  whole : Char
  deriving DecidableEq, Repr

/-- The composite that an entry of the table describes. -/
def Composite.ofEntry (entry : List Char) : Composite :=
  let (parts, whole) := Text.splitAtMark '>' entry
  let (first, second) := Text.splitAtMark '+' parts
  ⟨.ofNat (Text.ofHexadecimal first), .ofNat (Text.ofHexadecimal second),
    .ofNat (Text.ofHexadecimal whole)⟩

/-- All composites but the Korean syllables. -/
def composites : List Composite := (Text.words compositeText).map Composite.ofEntry

/-- The class of the marks in a range. -/
structure MarkClass where
  /-- The first and the last code point. -/
  range : Nat × Nat
  /-- The class of these marks. -/
  value : Nat
  deriving DecidableEq, Repr

/-- The class that an entry of the table describes. -/
def MarkClass.ofEntry (entry : List Char) : MarkClass :=
  let (range, value) := Text.splitAtMark '>' entry
  ⟨Text.readRange range, Text.ofHexadecimal value⟩

/-- The marks that have a class. -/
def markClasses : List MarkClass := (Text.words markClassText).map MarkClass.ofEntry

/-- The class of a character; zero for one that is no mark and for a mark that
keeps its place. -/
def classOf (character : Char) : Nat :=
  match markClasses.find? fun marks =>
      marks.range.1 ≤ character.toNat && character.toNat ≤ marks.range.2 with
  | some marks => marks.value
  | none => 0

/-! ## Korean syllables -/

/-- How many medial letters there are. -/
def medialCount : Nat := 21

/-- How many final letters there are, their absence included. -/
def finalCount : Nat := 28

/-- How many syllables there are. -/
def syllableCount : Nat := 19 * medialCount * finalCount

/-- A character by its distance from a first one, if the distance is less than a
count. -/
def distance? (first count : Nat) (character : Char) : Option Nat :=
  if first ≤ character.toNat && character.toNat < first + count then
    some (character.toNat - first)
  else none

/-- An initial and a medial letter as a syllable, or a syllable without a final
letter and a final letter. -/
def uniteSyllable? (first second : Char) : Option Char :=
  match distance? 0x1100 19 first, distance? 0x1161 medialCount second with
  | some initial, some medial =>
      some (.ofNat (0xAC00 + (initial * medialCount + medial) * finalCount))
  | _, _ =>
      match distance? 0xAC00 syllableCount first, distance? 0x11A8 (finalCount - 1) second with
      | some syllable, some final =>
          if syllable % finalCount == 0 then some (.ofNat (first.toNat + final + 1)) else none
      | _, _ => none

/-- The letters of a syllable. -/
def takeSyllableApart (syllable : Nat) : List Char :=
  let final := syllable % finalCount
  let openSyllable := syllable / finalCount
  [.ofNat (0x1100 + openSyllable / medialCount), .ofNat (0x1161 + openSyllable % medialCount)] ++
    (if final == 0 then [] else [.ofNat (0x11A7 + final)])

/-! ## Taking apart -/

/-- The characters that a character stands for, after so many steps in each of
which the first character may again be a composite. -/
def takeCompositeApart : Nat → Char → List Char
  | 0, character => [character]
  | steps + 1, character =>
      match composites.find? (·.whole == character) with
      | some composite => takeCompositeApart steps composite.first ++ [composite.second]
      | none => [character]

/-- The characters that a character stands for.  No composite of the table needs
more than two steps. -/
def takeApart (character : Char) : List Char :=
  match distance? 0xAC00 syllableCount character with
  | some syllable => takeSyllableApart syllable
  | none => takeCompositeApart 2 character

/-! ## Order -/

/-- Puts a character in front of ordered ones, behind the marks of lesser class
with which they start. -/
def insertMark (character : Char) : List Char → List Char
  | [] => [character]
  | next :: rest =>
      if classOf next != 0 && classOf next < classOf character then
        next :: insertMark character rest
      else character :: next :: rest

/-- A text in which marks that follow one another are ordered by their class;
marks of one class keep their order. -/
def orderMarks (text : List Char) : List Char := text.foldr insertMark []

/-! ## Composition -/

/-- The character that stands for two. -/
def unite? (first second : Char) : Option Char :=
  match uniteSyllable? first second with
  | some syllable => some syllable
  | none =>
      (composites.find? fun composite =>
        composite.first == first && composite.second == second).map (·.whole)

/-- A text behind a letter, which takes up what it can.  The marks that it could
not take up stand behind it. -/
def takeUp (letter : Char) (marks : List Char) : List Char → List Char
  | [] => letter :: marks
  | character :: rest =>
      let whole :=
        if marks.getLast?.all fun mark => classOf mark < classOf character then
          unite? letter character
        else none
      match whole with
      | some whole => takeUp whole marks rest
      | none =>
          if classOf character == 0 then letter :: (marks ++ takeUp character [] rest)
          else takeUp letter (marks ++ [character]) rest

/-- An ordered text with as few characters as possible. -/
def uniteMarks : List Char → List Char
  | [] => []
  | character :: rest =>
      if classOf character == 0 then takeUp character [] rest
      else character :: uniteMarks rest

/-- A text in which letters and their marks are written as one character where
there is one. -/
def compose (text : List Char) : List Char :=
  uniteMarks (orderMarks (text.flatMap takeApart))

end DiagnosticReport.Uri.Name
