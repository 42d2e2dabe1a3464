import DiagnosticReport.Text.Blank

/-!
# Levels

The four levels of a diagnostic.  Engines number them, configurations and
command lines name them.  A name is read in any ASCII case and with blanks
around it, and a name that is none of the four is reported as it was understood:
trimmed and in small letters.
-/

set_option autoImplicit false

namespace DiagnosticReport

/-- How serious a diagnostic is. -/
inductive Level where
  | warning
  | error
  | suggestion
  | message
  deriving DecidableEq, Repr

/-- A level name that is none of the four, trimmed and in small letters. -/
structure UnknownLevel where
  /-- The name as it was understood. -/
  name : String
  deriving DecidableEq, Repr

def UnknownLevel.message (error : UnknownLevel) : String :=
  "Unknown diagnostic level: " ++ error.name ++
    " (expected error, warning, suggestion or message)"

namespace Level

/-- All levels in the order of their numbers. -/
def all : List Level := [.warning, .error, .suggestion, .message]

/-- The number that engines give to a level. -/
def ordinal : Level → Nat
  | .warning => 0
  | .error => 1
  | .suggestion => 2
  | .message => 3

/-- The level with this number. -/
def ofOrdinal? (number : Int) : Option Level :=
  all.find? fun level => (level.ordinal : Int) == number

/-- The name of a level. -/
def name : Level → String
  | .warning => "warning"
  | .error => "error"
  | .suggestion => "suggestion"
  | .message => "message"

/-- The level with exactly this name. -/
def ofName? (text : String) : Option Level :=
  all.find? fun level => level.name == text

/-- The level that a user names. -/
def parse (text : String) : Except UnknownLevel Level :=
  let name := Text.lowercaseAscii (Text.trim text)
  match ofName? name with
  | some level => .ok level
  | none => .error ⟨name⟩

end Level

end DiagnosticReport
