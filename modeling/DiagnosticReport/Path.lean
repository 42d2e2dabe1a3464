/-!
# Paths

Operations on the text of a path, without looking at any file: joining a name to
a directory, and the chain of directories that lead up from one.

The chain works on the components between the slashes.  Empty components do not
count, nor does `.`, except at the very start of a relative path, where it names
a directory of its own.  A component `..` counts like any other.
-/

set_option autoImplicit false

namespace DiagnosticReport.Path

/-- The text between the slashes of a path. -/
def pieces (path : String) : List String :=
  (path.toList.splitOn '/').map String.ofList

/-- Whether a path starts at the root. -/
def isAbsolute (path : String) : Bool := path.toList.head? == some '/'

/-- The path of a name in a directory. -/
def join (directory name : String) : String :=
  if directory.isEmpty then name
  else if directory.toList.getLast? == some '/' then directory ++ name
  else directory ++ "/" ++ name

/-- The components of a path that count. -/
def components (path : String) : List String :=
  match pieces path with
  | "." :: rest => "." :: rest.filter fun piece => piece != "" && piece != "."
  | all => all.filter fun piece => piece != "" && piece != "."

/-- The path with these components. -/
def ofComponents (absolute : Bool) (components : List String) : String :=
  (if absolute then "/" else "") ++ String.intercalate "/" components

/-- The lists that are left when components are dropped from the front, one by
one, down to the empty list. -/
def suffixes : List String → List (List String)
  | [] => [[]]
  | component :: rest => (component :: rest) :: suffixes rest

/-- A directory and the directories above it, as far as its path shows them. -/
def ancestors (path : String) : List String :=
  (suffixes (components path).reverse).map fun reversed =>
    ofComponents (isAbsolute path) reversed.reverse

end DiagnosticReport.Path
