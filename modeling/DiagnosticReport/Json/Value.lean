import DiagnosticReport.Decimal

/-!
# JSON values

The values that a JSON text denotes, with two losses.  A number that is written
with a fraction or an exponent, and negative zero, is kept only as finite or
not, since no document of this library holds such a number.  A string with an
escaped surrogate that has no partner is kept only as `unpaired`: it denotes no
text, and a reader that needs the text refuses it.  An object keeps its members
in order, repeated names included.

`Json.readable` says that a value is acceptable wherever it stands: no unpaired
surrogate, no number beyond the doubles, and no more than a given number of
containers inside one another.
-/

set_option autoImplicit false

namespace DiagnosticReport

/-- A JSON number. -/
inductive Json.Number where
  /-- A number written as a whole number. -/
  | integer (value : Int)
  /-- Any other number; only whether it is within the doubles is kept. -/
  | inexact (finite : Bool)
  deriving DecidableEq, Repr

/-- A JSON value. -/
inductive Json where
  | null
  | bool (value : Bool)
  | number (value : Json.Number)
  | string (value : String)
  /-- A string with an escaped surrogate that has no partner. -/
  | unpaired
  | array (items : List Json)
  /-- Named values in the order of the text; a name can be unpaired too. -/
  | object (members : List (Option String × Json))
  deriving Repr

namespace Json

/-- The number of a whole number. -/
def int (value : Int) : Json := .number (.integer value)

/-- An object with readable names. -/
def record (members : List (String × Json)) : Json :=
  .object (members.map fun member => (some member.1, member.2))

/-- Whether a number is within the doubles.  The first test on a whole number
only keeps its digits few. -/
def Number.isFinite : Number → Bool
  | .integer value =>
      value.natAbs < Nat.pow 10 310 && Decimal.isWithinDoubles (Nat.toDigits 10 value.natAbs) [] 0
  | .inexact finite => finite

/-- How many containers may stand inside one another. -/
def nestingLimit : Nat := 127

mutual

/-- No unpaired surrogate, no number beyond the doubles, and at most `room`
containers inside one another. -/
def readable (room : Nat) : Json → Bool
  | .null => true
  | .bool _ => true
  | .number value => value.isFinite
  | .string _ => true
  | .unpaired => false
  | .array items => room != 0 && readableItems (room - 1) items
  | .object members => room != 0 && readableMembers (room - 1) members

/-- Every item is readable. -/
def readableItems (room : Nat) : List Json → Bool
  | [] => true
  | item :: items => item.readable room && readableItems room items

/-- Every member is readable, its name included. -/
def readableMembers (room : Nat) : List (Option String × Json) → Bool
  | [] => true
  | (name, value) :: members =>
      name.isSome && value.readable room && readableMembers room members

end

end Json

end DiagnosticReport
