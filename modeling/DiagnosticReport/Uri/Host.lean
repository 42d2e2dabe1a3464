import DiagnosticReport.Uri.Address
import DiagnosticReport.Uri.Name.Label

/-!
# Hosts

Only one question is asked about the host of a URI: whether it is this machine.
`Host.read?` answers it, and refuses what is no host at all.  A host is a name or
an address.  Escapes in a name are decoded, and the name is brought to its
canonical spelling before it is compared.
-/

set_option autoImplicit false

namespace DiagnosticReport.Uri

/-- What a host is, as far as files are concerned. -/
inductive Host where
  | localhost
  | remote
  deriving DecidableEq, Repr

namespace Host

/-- An ASCII character that no name holds. -/
def isForbidden (character : Char) : Bool :=
  character.toNat ≤ 0x20 || "%#/:<>?@[\\]^|".toList.contains character || character == '\x7f'

/-- The host with this name. -/
def ofName? (name : List Char) : Option Host := do
  let decoded ← Text.Utf8.decode? (percentDecode name)
  let spelled ← Name.spell? decoded
  if spelled.isEmpty || spelled.any isForbidden || !Name.isValid spelled then none
  else if endsInNumber spelled then
    if isAddress spelled then some .remote else none
  else if spelled == "localhost".toList then some .localhost
  else some .remote

/-- The host that a text names. -/
def read? (text : List Char) : Option Host :=
  match text with
  | '[' :: rest =>
      if rest.getLast? == some ']' && isBracketedAddress rest.dropLast then some .remote else none
  | _ => ofName? text

end Host

end DiagnosticReport.Uri
