import DiagnosticReport.Text.CharacterSet
import DiagnosticReport.Uri.Name.SpellingTable

/-!
# The spelling of characters in host names

A name is compared and checked in its canonical spelling, in which capitals are
small letters, compatibility forms are plain characters, and characters that do
not show are dropped.  `spelling?` gives the canonical spelling of one
character.  Some characters have none, because no name can hold them.

ASCII characters are all spelled; which of them a name can hold is asked of the
whole name.
-/

set_option autoImplicit false

namespace DiagnosticReport.Uri.Name

/-- The characters that no name holds. -/
def disallowed : Text.CharacterSet := .ofText disallowedText

/-- The characters that are dropped. -/
def ignored : Text.CharacterSet := .ofText ignoredText

/-- How some characters with consecutive code points are spelled. -/
inductive SpellingRule where
  /-- Every `step`th character from `first` to `last` has a spelling of one
  character, as far behind `target` as the character is behind `first`. -/
  | shift (first last step target : Nat)
  /-- The characters from `first` on have these spellings. -/
  | list (first : Nat) (spellings : List (List Char))
  deriving DecidableEq, Repr

namespace SpellingRule

/-- The spelling that a rule gives to a code point. -/
def spell? (code : Nat) : SpellingRule → Option (List Char)
  | .shift first last step target =>
      if first ≤ code && code ≤ last && (code - first) % step == 0 then
        some [.ofNat (target + (code - first))]
      else none
  | .list first spellings => if first ≤ code then spellings[code - first]? else none

/-- The rule that an entry of the table describes. -/
def ofEntry (entry : List Char) : SpellingRule :=
  let (characters, spellings) := Text.splitAtMark '>' entry
  if characters.contains '-' then
    let (range, step) := Text.splitAtMark '/' characters
    let (first, last) := Text.readRange range
    .shift first last (if step.isEmpty then 1 else Text.ofHexadecimal step)
      (Text.ofHexadecimal spellings)
  else
    .list (Text.ofHexadecimal characters)
      ((spellings.splitOn ',').map fun spelling =>
        (spelling.splitOn '+').map fun code => .ofNat (Text.ofHexadecimal code))

end SpellingRule

/-- The characters that are spelled otherwise. -/
def spellingRules : List SpellingRule := (Text.words spellingText).map SpellingRule.ofEntry

/-- The canonical spelling of a character; none if no name holds the character. -/
def spelling? (character : Char) : Option (List Char) :=
  if character.toNat < 0x80 then some [character.toLower]
  else if disallowed.contains character then none
  else if ignored.contains character then some []
  else some ((spellingRules.findSome? (·.spell? character.toNat)).getD [character])

end DiagnosticReport.Uri.Name
