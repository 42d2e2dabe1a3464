import DiagnosticReport.Uri.Percent

/-!
# Addresses of hosts

A host name whose last label is a number is an address with four parts at most,
the last of which fills the bytes that the others leave.  A host in brackets is
an address with eight groups, where a pair of colons stands for groups of zeros
and the last two groups can be written with points.
-/

set_option autoImplicit false

namespace DiagnosticReport.Uri

/-! ## Addresses with points -/

/-- The value of a digit in some base up to sixteen. -/
def digitValue? (base : Nat) (digit : Char) : Option Nat := do
  let value ← hexByteValue? (.ofNat digit.toNat)
  if digit.toNat < 0x80 && value.toNat < base then some value.toNat else none

/-- The value of a run of digits; zero for an empty one. -/
def numberInBase? (base : Nat) (digits : List Char) : Option Nat :=
  digits.foldlM (fun value digit => (digitValue? base digit).map (value * base + ·)) 0

/-- The value of a part of an address: hexadecimal behind `0x`, octal behind
another zero, decimal otherwise. -/
def addressPart? : List Char → Option Nat
  | [] => none
  | '0' :: 'x' :: digits => numberInBase? 16 digits
  | '0' :: 'X' :: digits => numberInBase? 16 digits
  | '0' :: next :: digits => numberInBase? 8 (next :: digits)
  | digits => numberInBase? 10 digits

/-- The labels of a name, without an empty one at its end. -/
def labels (name : List Char) : List (List Char) :=
  let all := name.splitOn '.'
  if all.length > 1 && all.getLast? == some [] then all.dropLast else all

/-- Whether the last label of a name is a number. -/
def endsInNumber (name : List Char) : Bool :=
  match (labels name).getLast? with
  | some last => (!last.isEmpty && last.all Char.isDigit) || (addressPart? last).isSome
  | none => false

/-- Whether a name is an address of at most four parts, the last of which fills
the bytes that the others leave. -/
def isAddress (name : List Char) : Bool :=
  match (labels name).mapM addressPart? with
  | some parts =>
      parts.length ≤ 4 && parts.dropLast.all (· ≤ 255) &&
        parts.getLast?.any (· < Nat.pow 256 (5 - parts.length))
  | none => false

/-! ## Addresses in brackets -/

/-- A group of an address in brackets. -/
def isAddressGroup (group : List Char) : Bool :=
  !group.isEmpty && group.length ≤ 4 && (numberInBase? 16 group).isSome

/-- A part of the dotted end of an address in brackets. -/
def isAddressByte (part : List Char) : Bool :=
  !part.isEmpty && part.length ≤ 3 && part.all Char.isDigit &&
    (part.length == 1 || part.head? != some '0') &&
    (numberInBase? 10 part).any (· ≤ 255)

/-- How many groups a list of groups fills, if its last may be dotted. -/
def groupCount? (lastMayBeDotted : Bool) (groups : List (List Char)) : Option Nat :=
  match groups.getLast? with
  | none => some 0
  | some last =>
      if !groups.dropLast.all isAddressGroup then none
      else if isAddressGroup last then some groups.length
      else
        let parts := last.splitOn '.'
        if lastMayBeDotted && parts.length == 4 && parts.all isAddressByte then
          some (groups.length + 1)
        else none

/-- The groups between the colons; none for an empty text. -/
def groupsOf (text : List Char) : List (List Char) :=
  if text.isEmpty then [] else text.splitOn ':'

/-- The texts before and behind the first pair of colons. -/
def splitAtPair : List Char → Option (List Char × List Char)
  | [] => none
  | ':' :: ':' :: rest => some ([], rest)
  | character :: rest =>
      (splitAtPair rest).map fun (before, behind) => (character :: before, behind)

/-- Whether a text is an address of eight groups, a pair of colons standing for
groups of zeros. -/
def isBracketedAddress (text : List Char) : Bool :=
  match splitAtPair text with
  | none => groupCount? true (groupsOf text) == some 8
  | some (before, behind) =>
      match groupCount? false (groupsOf before), groupCount? true (groupsOf behind) with
      | some first, some second => first + second ≤ 7
      | _, _ => false

end DiagnosticReport.Uri
