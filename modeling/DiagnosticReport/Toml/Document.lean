import DiagnosticReport.Toml.Value

/-!
# Building TOML tables

A document is a list of statements: a header opens a table or starts a new item
of a list of tables, and an assignment puts a value into the table opened last.
Both can name their target by a path.

Tables that come into being along the path of a header are *implicit*: a later
header may still open them, once.  Tables along the path of an assignment are
*dotted*: later assignments may add to them, but no header opens them.  A name
is never assigned twice, and a table once opened is not opened again.  Paths of
headers, but not of assignments, lead through the last item of a list of tables.
-/

set_option autoImplicit false

namespace DiagnosticReport.Toml

/-- A part of a document that is being built. -/
inductive Node where
  | value (content : Toml)
  /-- A table, with how it came into being. -/
  | table (implicit dotted : Bool) (members : List (String × Node))
  /-- The items of a list of tables, the last one first. -/
  | tables (items : List Node)
  deriving Repr

/-- One step of a document. -/
inductive Statement where
  /-- Opens the table at a path. -/
  | openTable (path : List String) (name : String)
  /-- Starts a new item of the list of tables at a path. -/
  | openItem (path : List String) (name : String)
  /-- Assigns a value at a path of the current table. -/
  | assign (path : List String) (name : String) (content : Toml)
  deriving Repr

namespace Node

/-- The members with another node under this name, computed from the one that
is there. -/
def update? (name : String) (change? : Option Node → Option Node) :
    List (String × Node) → Option (List (String × Node))
  | [] => (change? none).map fun node => [(name, node)]
  | (other, node) :: members =>
      if other == name then (change? (some node)).map fun node => (other, node) :: members
      else (update? name change? members).map ((other, node) :: ·)

/-- The last item of a list of tables, changed in its members. -/
def updateLast? (change? : List (String × Node) → Option (List (String × Node))) :
    List Node → Option (List Node)
  | .table implicit dotted members :: items =>
      (change? members).map fun members => .table implicit dotted members :: items
  | _ => none

/-- Assigns a value below a table with these members. -/
def assign? : List String → String → Toml → List (String × Node) → Option (List (String × Node))
  | [], name, content => update? name fun present =>
      match present with
      | none => some (.value content)
      | some _ => none
  | step :: path, name, content => update? step fun present =>
      match present with
      | none => (assign? path name content []).map (.table true true)
      | some (.table implicit dotted members) =>
          if implicit && (dotted || !path.isEmpty) then
            (assign? path name content members).map (.table implicit dotted)
          else none
      | some (.tables items) =>
          if path.isEmpty then none
          else (updateLast? (assign? path name content) items).map .tables
      | some (.value _) => none

/-- Changes the members of the table that a path of a header leads to; missing
tables come into being. -/
def within? (change? : List (String × Node) → Option (List (String × Node))) :
    List String → List (String × Node) → Option (List (String × Node))
  | [] => change?
  | step :: path => update? step fun present =>
      match present with
      | none => (within? change? path []).map (.table true false)
      | some (.table implicit dotted members) =>
          (within? change? path members).map (.table implicit dotted)
      | some (.tables items) => (updateLast? (within? change? path) items).map .tables
      | some (.value _) => none

/-- Opens a table with this name. -/
def openTable? (name : String) : List (String × Node) → Option (List (String × Node)) :=
  update? name fun present =>
    match present with
    | none => some (.table false false [])
    | some (.table true false members) => some (.table false false members)
    | some _ => none

/-- Starts a new item of the list of tables with this name. -/
def openItem? (name : String) : List (String × Node) → Option (List (String × Node)) :=
  update? name fun present =>
    match present with
    | none => some (.tables [.table false false []])
    | some (.tables items) => some (.tables (.table false false [] :: items))
    | some _ => none

/-- The members after a list of statements, where `current` leads to the table
that was opened last. -/
def run? : List String → List Statement → List (String × Node) → Option (List (String × Node))
  | _, [], members => some members
  | _, .openTable path name :: statements, members => do
      let members ← within? (openTable? name) path members
      run? (path ++ [name]) statements members
  | _, .openItem path name :: statements, members => do
      let members ← within? (openItem? name) path members
      run? (path ++ [name]) statements members
  | current, .assign path name content :: statements, members => do
      let members ← within? (assign? path name content) current members
      run? current statements members

mutual

/-- The value of a finished part. -/
def toToml : Node → Toml
  | .value content => content
  | .table _ _ members => .table (toTomlMembers members)
  | .tables items => .array (toTomlItems items).reverse

/-- The values of finished members. -/
def toTomlMembers : List (String × Node) → List (String × Toml)
  | [] => []
  | (name, node) :: members => (name, node.toToml) :: toTomlMembers members

/-- The values of finished items. -/
def toTomlItems : List Node → List Toml
  | [] => []
  | item :: items => item.toToml :: toTomlItems items

end

end Node

/-- The table that statements build. -/
def ofStatements? (statements : List Statement) : Option Toml :=
  (Node.run? [] statements []).map fun members => .table (Node.toTomlMembers members)

/-- The table that assignments alone build. -/
def ofAssignments? (assignments : List (List String × String × Toml)) : Option Toml :=
  ofStatements? (assignments.map fun (path, name, content) => .assign path name content)

end DiagnosticReport.Toml
