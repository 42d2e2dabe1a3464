/-!
# Blank characters

The characters with the Unicode property `White_Space`, and the trimming of a
text at both ends.  Level names and language-server messages are trimmed with
this set, which is larger than the ASCII blanks.
-/

set_option autoImplicit false

namespace DiagnosticReport.Text

/-- Every character with the Unicode property `White_Space`. -/
def isBlank (character : Char) : Bool :=
  let code := character.toNat
  (0x09 ≤ code && code ≤ 0x0D) || code == 0x20 || code == 0x85 || code == 0xA0 ||
    code == 0x1680 || (0x2000 ≤ code && code ≤ 0x200A) || code == 0x2028 ||
    code == 0x2029 || code == 0x202F || code == 0x205F || code == 0x3000

/-- A text without the characters of one class at its two ends. -/
def trimBoth (drops : Char → Bool) (text : List Char) : List Char :=
  ((text.dropWhile drops).reverse.dropWhile drops).reverse

/-- A text without the blank characters at its two ends. -/
def trim (text : String) : String :=
  String.ofList (trimBoth isBlank text.toList)

/-- The ASCII capitals of a text replaced by their small letters; every other
character stays. -/
def lowercaseAscii (text : String) : String :=
  String.ofList (text.toList.map Char.toLower)

end DiagnosticReport.Text
