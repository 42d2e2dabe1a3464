/-!
# TOML values

The values of a TOML document as far as a configuration needs them: texts, truth
values, lists and tables.  Numbers and points in time are told apart from these
and from each other, but their values are not kept.

A structure is read from a table, or from a list of its fields in the order of
their declaration, where missing fields at the end take their defaults and
further items are ignored.  A point in time reads as a table without fields.
-/

set_option autoImplicit false

namespace DiagnosticReport

/-- A TOML value. -/
inductive Toml where
  | string (value : String)
  | boolean (value : Bool)
  /-- An integer or a float. -/
  | number
  /-- A date, a time, or both. -/
  | moment
  | array (items : List Toml)
  /-- A table, each name once. -/
  | table (members : List (String × Toml))
  deriving Repr

namespace Toml

/-- The text of a string. -/
def string? : Toml → Option String
  | .string value => some value
  | _ => none

/-- A truth value. -/
def boolean? : Toml → Option Bool
  | .boolean value => some value
  | _ => none

/-- A list of strings. -/
def strings? : Toml → Option (List String)
  | .array items => items.mapM string?
  | _ => none

/-- The fields of a structure that are present in a value. -/
def members? (fields : List String) : Toml → Option (List (String × Toml))
  | .table members => some members
  | .array items => some (fields.zip items)
  | .moment => some []
  | _ => none

/-- A field that may be missing. -/
def defaulted {α : Type} (default : α) (read? : Toml → Option α) (field : String)
    (members : List (String × Toml)) : Option α :=
  match members.lookup field with
  | none => some default
  | some value => read? value

end Toml

end DiagnosticReport
