import DiagnosticReport.Uri.Name.Direction
import DiagnosticReport.Uri.Name.Joiner
import DiagnosticReport.Uri.Name.Punycode
import DiagnosticReport.Uri.Name.Spelling

/-!
# The labels of host names

A host name consists of labels with points between them.  `spell?` brings a name
to its canonical spelling.  `isValid` tells whether a name in that spelling can
be a host name: its labels can be decoded, none of them starts with a mark or
has an idle joiner, and they keep to their directions if the name has any.

A decoded label has to be in canonical spelling already, so that a name has one
encoded form only.
-/

set_option autoImplicit false

namespace DiagnosticReport.Uri.Name

/-- The canonical spelling of a name; none if it has a character that no name
holds. -/
def spell? (name : List Char) : Option (List Char) :=
  (name.mapM spelling?).map fun spellings => compose spellings.flatten

/-- The mark at the start of an encoded label. -/
def encodedMark : List Char := "xn--".toList

/-- How long the text behind the mark of an encoded label may be. -/
def encodedLimit : Nat := 2000

/-- How long a label may be that is not encoded and holds more than ASCII. -/
def plainLimit : Nat := 1000

/-- Whether a decoded label is in canonical spelling and not encoded again. -/
def isCanonical (label : List Char) : Bool :=
  label.all (fun character => spelling? character == some [character]) &&
    compose label == label && !encodedMark.isPrefixOf label

/-- The characters of a label, decoded if it is encoded. -/
def decodeLabel? (label : List Char) : Option (List Char) :=
  if encodedMark.isPrefixOf label then
    let encoded := label.drop encodedMark.length
    if label.getLast? == some '-' || encoded.length > encodedLimit then none
    else (Punycode.decode? encoded).filter isCanonical
  else if label.all (·.toNat < 0x80) || label.length ≤ plainLimit then some label
  else none

/-- Whether a character is a mark. -/
def isMark (character : Char) : Bool :=
  nonspacingMarks.contains character || spacingMarks.contains character

/-- Whether a decoded label starts with no mark and has no idle joiner. -/
def isWellFormed (label : List Char) : Bool :=
  !label.head?.any isMark && joinersMatter [] label

/-- Whether a name in canonical spelling can be a host name.  Labels may be
empty. -/
def isValid (name : List Char) : Bool :=
  match (name.splitOn '.').mapM decodeLabel? with
  | none => false
  | some labels =>
      labels.all isWellFormed &&
        (!(labels.any fun label => label.any setsDirection) || labels.all keepsDirection)

end DiagnosticReport.Uri.Name
