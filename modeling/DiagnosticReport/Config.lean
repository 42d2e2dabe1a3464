import DiagnosticReport.FileTree
import DiagnosticReport.Filter
import DiagnosticReport.Toml.Read
import DiagnosticReport.Toml.Write

/-!
# Configuration

A configuration switches the two outputs on or off and lists, for each checker,
the names of the levels that it reports.  The names are kept as they were
written; whether they name levels is found out only when a filter is made of
them.

The configuration that applies in a directory is the one in the nearest
directory, from there upwards, that has an entry with the right name.  If that
entry cannot be read the search does not go on.  Without any such entry the
default configuration applies.
-/

set_option autoImplicit false

namespace DiagnosticReport

/-- The names of the levels that each checker reports. -/
structure LevelNames where
  typeScript : List String
  vueTsc : List String
  vls : List String
  esLint : List String
  deriving DecidableEq, Repr

/-- A configuration. -/
structure Config where
  /-- Whether reports and summaries are printed. -/
  terminalEnabled : Bool
  /-- Whether envelopes are made for the overlay. -/
  overlayEnabled : Bool
  levels : LevelNames
  deriving DecidableEq, Repr

/-- Why a configuration cannot be loaded. -/
inductive ConfigError where
  | unreadable (cause : FileError)
  /-- The text holds no configuration. Which value is wrong, and at which place of the text,
  is not modelled. -/
  | malformed
  deriving DecidableEq, Repr

/-- What is said about an error. For a malformed text a fixed text stands in place of the
detail that its reader gives. -/
def ConfigError.message : ConfigError → String
  | .unreadable cause => cause.message
  | .malformed => "not a valid configuration"

namespace LevelNames

/-- The names of all levels. -/
def allNames : List String := [Level.error, .warning, .suggestion, .message].map Level.name

/-- All levels for every checker. -/
def default : LevelNames := ⟨allNames, allNames, allNames, allNames⟩

/-- The names for one checker. -/
def namesFor (levels : LevelNames) : Checker → List String
  | .typeScript => levels.typeScript
  | .vueTsc => levels.vueTsc
  | .vls => levels.vls
  | .esLint => levels.esLint

/-- The filter for one checker. -/
def filterFor (levels : LevelNames) (checker : Checker) : Except UnknownLevel LevelFilter :=
  LevelFilter.ofNames (levels.namesFor checker)

/-- The names that a TOML value holds. -/
def ofToml? (value : Toml) : Option LevelNames := do
  let members ← value.members? ["typescript", "vue_tsc", "vls", "eslint"]
  let typeScript ← Toml.defaulted allNames Toml.strings? "typescript" members
  let vueTsc ← Toml.defaulted allNames Toml.strings? "vue_tsc" members
  let vls ← Toml.defaulted allNames Toml.strings? "vls" members
  let esLint ← Toml.defaulted allNames Toml.strings? "eslint" members
  return { typeScript, vueTsc, vls, esLint }

end LevelNames

namespace Config

/-- The name of the file that holds a configuration. -/
def fileName : String := ".checkframe.toml"

/-- Both outputs, and all levels for every checker. -/
def default : Config := ⟨true, true, .default⟩

/-- The switch of one output. -/
def switchOfToml? (value : Toml) : Option Bool := do
  let members ← value.members? ["enabled"]
  Toml.defaulted true Toml.boolean? "enabled" members

/-- The configuration that a TOML value holds. -/
def ofToml? (value : Toml) : Option Config := do
  let members ← value.members? ["terminal", "overlay", "log_level"]
  let terminalEnabled ← Toml.defaulted true switchOfToml? "terminal" members
  let overlayEnabled ← Toml.defaulted true switchOfToml? "overlay" members
  let levels ← Toml.defaulted .default LevelNames.ofToml? "log_level" members
  return { terminalEnabled, overlayEnabled, levels }

/-- The configuration that a text holds. -/
def ofText? (text : String) : Option Config := (Toml.ofText? text).bind ofToml?

/-- The text of a configuration. -/
def toText (config : Config) : String :=
  String.ofList (
    Toml.writeHeader "terminal" ++
    Toml.writeAssignment "enabled" (Toml.writeBoolean config.terminalEnabled) ++ ['\n'] ++
    Toml.writeHeader "overlay" ++
    Toml.writeAssignment "enabled" (Toml.writeBoolean config.overlayEnabled) ++ ['\n'] ++
    Toml.writeHeader "log_level" ++
    Toml.writeAssignment "typescript" (Toml.writeStrings config.levels.typeScript) ++
    Toml.writeAssignment "vue_tsc" (Toml.writeStrings config.levels.vueTsc) ++
    Toml.writeAssignment "vls" (Toml.writeStrings config.levels.vls) ++
    Toml.writeAssignment "eslint" (Toml.writeStrings config.levels.esLint))

/-! ## Files -/

/-- The configuration in a file. -/
def load (tree : FileTree) (path : String) : Except ConfigError Config :=
  match tree.readText path with
  | .error cause => .error (.unreadable cause)
  | .ok text =>
      match ofText? text with
      | some config => .ok config
      | none => .error .malformed

/-- The tree with a configuration in a file. -/
def save? (config : Config) (tree : FileTree) (path : String) : Except FileError FileTree :=
  tree.write? path config.toText

/-- The nearest directory, from the given one upwards, that has an entry for a
configuration. -/
def nearest? (tree : FileTree) (directory : String) : Option String :=
  (Path.ancestors directory).find? fun above => tree.holds (Path.join above fileName)

/-- The configuration that applies in a directory. -/
def find (tree : FileTree) (directory : String) : Except ConfigError Config :=
  match nearest? tree directory with
  | some above => load tree (Path.join above fileName)
  | none => .ok default

/-- Writes the default configuration into a directory that has no entry for
one; none if it has.  The path is the one that was written, or that could not
be. -/
def install (tree : FileTree) (directory : String) :
    Except (String × FileError) (Option (String × FileTree)) :=
  let path := Path.join directory fileName
  if tree.holds path then .ok none
  else
    match default.save? tree path with
    | .ok tree => .ok (some (path, tree))
    | .error cause => .error (path, cause)

end Config

end DiagnosticReport
