import DiagnosticReport.Record

/-!
# Filters and counts

A `LevelFilter` is a set of levels, kept in the order in which they were first
named.  A record passes if it has a level and the level is in the set; a record
without a level never passes, whatever the filter.

`Counts.tally` counts the errors and the warnings of a list of records and
nothing else.
-/

set_option autoImplicit false

namespace DiagnosticReport

/-- The levels that may pass. -/
structure LevelFilter where
  /-- The levels, each once, in the order in which they were first named. -/
  allowed : List Level
  deriving DecidableEq, Repr

namespace LevelFilter

/-- A list without the later repetitions of its members. -/
def keepFirst (levels : List Level) : List Level :=
  levels.foldl (fun kept level => if level ∈ kept then kept else kept ++ [level]) []

/-- The filter of these levels. -/
def ofLevels (levels : List Level) : LevelFilter := ⟨keepFirst levels⟩

/-- The filter of the levels with these names; the first unknown name is
reported. -/
def ofNames (names : List String) : Except UnknownLevel LevelFilter :=
  (names.mapM Level.parse).map ofLevels

/-- The filter of all levels. -/
def all : LevelFilter := ⟨Level.all⟩

/-- Whether a record passes. -/
def allows (filter : LevelFilter) (record : Record) : Bool :=
  record.level.any filter.allowed.contains

/-- The records that pass, in their order. -/
def apply (filter : LevelFilter) (records : List Record) : List Record :=
  records.filter filter.allows

end LevelFilter

/-- How many errors and warnings there are. -/
structure Counts where
  errors : Nat := 0
  warnings : Nat := 0
  deriving DecidableEq, Repr

namespace Counts

/-- Two counts together. -/
def add (first second : Counts) : Counts :=
  ⟨first.errors + second.errors, first.warnings + second.warnings⟩

/-- The errors and warnings of a list of records. -/
def tally (records : List Record) : Counts :=
  ⟨records.countP Record.isError, records.countP Record.isWarning⟩

end Counts

end DiagnosticReport
