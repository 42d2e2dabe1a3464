import DiagnosticReport.Json.Value

/-!
# Reading typed values out of JSON

A structure is written as an object with its field names, or as an array of its
fields in the order of their declaration.  `members?` brings both forms to a
list of named values; the fields are then looked up by name.  In an object
unknown names are skipped and a field may occur once; an array may be shorter
than the list of fields but not longer.

A field is required, optional or defaulted.  An optional field may be missing or
`null`, a defaulted field may only be missing.
-/

set_option autoImplicit false

namespace DiagnosticReport.Json

/-! ## Scalars and lists -/

/-- The text of a string. -/
def string? : Json → Option String
  | .string value => some value
  | _ => none

/-- A truth value. -/
def bool? : Json → Option Bool
  | .bool value => some value
  | _ => none

/-- A whole number in a range. -/
def integerWithin? (least greatest : Int) : Json → Option Int
  | .number (.integer value) => if least ≤ value && value ≤ greatest then some value else none
  | _ => none

/-- A signed 64-bit number. -/
def int64? (value : Json) : Option Int64 :=
  (integerWithin? Int64.minValue.toInt Int64.maxValue.toInt value).map Int64.ofInt

/-- An unsigned 64-bit number. -/
def uint64? (value : Json) : Option UInt64 :=
  (integerWithin? 0 0xFFFFFFFFFFFFFFFF value).map fun number => UInt64.ofNat number.toNat

/-- An unsigned 32-bit number. -/
def uint32? (value : Json) : Option UInt32 :=
  (integerWithin? 0 0xFFFFFFFF value).map fun number => UInt32.ofNat number.toNat

/-- A list whose items are read alike. -/
def list? {α : Type} (read? : Json → Option α) : Json → Option (List α)
  | .array items => items.mapM read?
  | _ => none

/-- The name of a constant, written as a string or as an object with that one
name and the value `null`. -/
def constant? : Json → Option String
  | .string name => some name
  | .object [(some name, .null)] => some name
  | _ => none

mutual

/-- A value in which every object with one name and an empty object has `null` in
the place of the empty object, so that constants written in that way are
constants. -/
def withNullConstants : Json → Json
  | .object [(name, .object [])] => .object [(name, .null)]
  | .object members => .object (membersWithNullConstants members)
  | .array items => .array (itemsWithNullConstants items)
  | value => value

/-- The items with `null` in their constants. -/
def itemsWithNullConstants : List Json → List Json
  | [] => []
  | item :: items => item.withNullConstants :: itemsWithNullConstants items

/-- The members with `null` in their constants. -/
def membersWithNullConstants : List (Option String × Json) → List (Option String × Json)
  | [] => []
  | (name, value) :: members =>
      (name, value.withNullConstants) :: membersWithNullConstants members

end

/-! ## Structures -/

/-- The members of an object as far as their names are readable; none if one is
not. -/
def namedMembers? : List (Option String × Json) → Option (List (String × Json))
  | [] => some []
  | (name, value) :: members => do
      let name ← name
      let members ← namedMembers? members
      return (name, value) :: members

/-- The fields of a structure that are present in a value of either form. -/
def members? (fields : List String) : Json → Option (List (String × Json))
  | .object members => do
      let members ← namedMembers? members
      if fields.all fun field => members.countP (·.1 == field) ≤ 1 then some members else none
  | .array items => if items.length ≤ fields.length then some (fields.zip items) else none
  | _ => none

/-- A field that has to be present. -/
def required {α : Type} (read? : Json → Option α) (field : String)
    (members : List (String × Json)) : Option α :=
  (members.lookup field).bind read?

/-- A field that may be missing or `null`. -/
def optional {α : Type} (read? : Json → Option α) (field : String)
    (members : List (String × Json)) : Option (Option α) :=
  match members.lookup field with
  | none => some none
  | some .null => some none
  | some value => (read? value).map some

/-- A field that may be missing, but is not `null`. -/
def defaulted {α : Type} (default : α) (read? : Json → Option α) (field : String)
    (members : List (String × Json)) : Option α :=
  match members.lookup field with
  | none => some default
  | some value => read? value

/-! ## Writing typed values -/

/-- An optional value; `null` if it is absent. -/
def ofOption {α : Type} (write : α → Json) : Option α → Json
  | none => .null
  | some value => write value

/-- A member that is written only if its value is present. -/
def present {α : Type} (field : String) (write : α → Json) : Option α → List (String × Json)
  | none => []
  | some value => [(field, write value)]

end DiagnosticReport.Json
