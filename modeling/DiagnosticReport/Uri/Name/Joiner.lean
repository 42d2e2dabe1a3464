import DiagnosticReport.Uri.Name.CharacterTable
import DiagnosticReport.Uri.Name.Composition

/-!
# Joiners in host names

Two characters that do not show decide whether their neighbours are joined.
They are kept in a name only where they make a difference: behind a mark that
takes the vowel of its letter, and, for the one that keeps letters apart, also
between letters that would be joined.
-/

set_option autoImplicit false

namespace DiagnosticReport.Uri.Name

/-- The character that keeps its neighbours apart. -/
def nonJoiner : Char := '\u200c'

/-- The character that joins its neighbours. -/
def joiner : Char := '\u200d'

/-- The class of the marks that take the vowel of their letter. -/
def vowelKillerClass : Nat := 9

/-- Whether letters are joined across a character. -/
def isTransparent (character : Char) : Bool :=
  nonspacingMarks.contains character || character.toNat == 0x1E94B

/-- Whether a text, read towards its start, first has a letter that joins the
one behind it. -/
def joinsWhatFollows (reversed : List Char) : Bool :=
  (reversed.dropWhile isTransparent).head?.any fun letter =>
    joinsBehind.contains letter || joinsBoth.contains letter

/-- Whether a text first has a letter that joins the one before it. -/
def joinsWhatPrecedes (text : List Char) : Bool :=
  (text.dropWhile isTransparent).head?.any fun letter =>
    joinsBefore.contains letter || joinsBoth.contains letter

/-- Whether every joiner of a text makes a difference, where `reversed` is what
stands before the text, read towards its start. -/
def joinersMatter (reversed : List Char) : List Char → Bool
  | [] => true
  | character :: rest =>
      let killsVowel := reversed.head?.any fun mark => classOf mark == vowelKillerClass
      let fits :=
        if character == nonJoiner then
          killsVowel || (joinsWhatFollows reversed && joinsWhatPrecedes rest)
        else if character == joiner then killsVowel
        else true
      fits && joinersMatter (character :: reversed) rest

end DiagnosticReport.Uri.Name
