import DiagnosticReport.Path
import DiagnosticReport.Text.Utf8

/-!
# File trees

A `FileTree` is a set of files and directories as a value, together with the
directory in which relative paths start.  A path is followed component by
component, and every component but the last has to be a directory.  Reading and
creating fail as an operating system does, with the same texts.

Nothing here changes a tree except `write?`, which adds one file.
-/

set_option autoImplicit false

namespace DiagnosticReport

/-- Why a file cannot be read or written. -/
inductive FileError where
  | notFound
  /-- A component on the way is not a directory. -/
  | notADirectory
  | isADirectory
  | notText
  /-- The path holds the character U+0000. -/
  | nulInPath
  deriving DecidableEq, Repr

def FileError.message : FileError → String
  | .notFound => "No such file or directory (os error 2)"
  | .notADirectory => "Not a directory (os error 20)"
  | .isADirectory => "Is a directory (os error 21)"
  | .notText => "stream did not contain valid UTF-8"
  | .nulInPath => "file name contained an unexpected NUL byte"

/-- The names that lead from the root to a place. -/
abbrev Place := List String

/-- What stands at a place. -/
inductive Entry where
  | file (bytes : List UInt8)
  | directory
  deriving DecidableEq, Repr

/-- Files and directories. -/
structure FileTree where
  /-- The entries with their places; the first one at a place counts. -/
  entries : List (Place × Entry)
  /-- Where relative paths start. -/
  workingDirectory : Place
  deriving DecidableEq, Repr

namespace FileTree

/-- What stands at a place; the root is always a directory. -/
def entryAt? (tree : FileTree) (place : Place) : Option Entry :=
  if place.isEmpty then some .directory else tree.entries.lookup place

/-- The place that a component leads to from a directory. -/
def enter (place : Place) (component : String) : Place :=
  if component == "" || component == "." then place
  else if component == ".." then place.dropLast
  else place ++ [component]

/-- The place that components lead to.  Nothing need stand there, but all
places before it have to be directories. -/
def follow (tree : FileTree) : Place → List String → Except FileError Place
  | place, [] => .ok place
  | place, component :: rest =>
      match tree.entryAt? place with
      | some .directory => tree.follow (enter place component) rest
      | some (.file _) => .error .notADirectory
      | none => .error .notFound

/-- The place that a path leads to. -/
def locate (tree : FileTree) (path : String) : Except FileError Place :=
  if path.toList.contains '\x00' then .error .nulInPath
  else if path.isEmpty then .error .notFound
  else
    let start := if Path.isAbsolute path then [] else tree.workingDirectory
    tree.follow start (Path.pieces path)

/-- The places passed on the way from one place along components, whatever
stands there. -/
def passed : Place → List String → List Place
  | place, [] => [place]
  | place, component :: rest => place :: passed (enter place component) rest

/-- All places that decide where a path leads to and what is there. -/
def placesOnPath (workingDirectory : Place) (path : String) : List Place :=
  passed [] ((if Path.isAbsolute path then [] else workingDirectory) ++ Path.pieces path)

/-- Whether something stands where a path leads to. -/
def holds (tree : FileTree) (path : String) : Bool :=
  match tree.locate path with
  | .ok place => (tree.entryAt? place).isSome
  | .error _ => false

/-- The text of the file that a path leads to. -/
def readText (tree : FileTree) (path : String) : Except FileError String := do
  let place ← tree.locate path
  match tree.entryAt? place with
  | some (.file bytes) =>
      match Text.Utf8.decode? bytes with
      | some text => .ok (String.ofList text)
      | none => .error .notText
  | some .directory => .error .isADirectory
  | none => .error .notFound

/-- The names at the start of a list of components, up to the first component
that is not UTF-8. -/
def leadingNames : List (List UInt8) → List String
  | [] => []
  | component :: rest =>
      match Text.Utf8.decode? component with
      | some name => String.ofList name :: leadingNames rest
      | none => []

/-- Why nothing is found behind a path that is not UTF-8.  No file has a name that
is not UTF-8, but the components before such a name are followed first. -/
def missing (tree : FileTree) (path : List UInt8) : FileError :=
  if path.contains 0 then .nulInPath
  else
    let start := if path.head? == some 0x2F then [] else tree.workingDirectory
    match tree.follow start (leadingNames (path.splitOn 0x2F)) with
    | .error cause => cause
    | .ok place =>
        match tree.entryAt? place with
        | some (.file _) => .notADirectory
        | _ => .notFound

/-- The text of the file that a path of bytes leads to. -/
def readBytesPath (tree : FileTree) (path : List UInt8) : Except FileError String :=
  match Text.Utf8.decode? path with
  | some text => tree.readText (String.ofList text)
  | none => .error (tree.missing path)

/-- The tree with this text in the file that a path leads to. -/
def write? (tree : FileTree) (path text : String) : Except FileError FileTree := do
  let place ← tree.locate path
  match tree.entryAt? place with
  | some .directory => .error .isADirectory
  | _ => .ok { tree with entries := (place, .file (Text.Utf8.encode text.toList)) :: tree.entries }

end FileTree

end DiagnosticReport
