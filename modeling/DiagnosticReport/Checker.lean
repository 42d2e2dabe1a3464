/-!
# Checkers

The four programs whose diagnostics are reported, and the names under which they
appear in every output.
-/

set_option autoImplicit false

namespace DiagnosticReport

/-- A program that produces diagnostics. -/
inductive Checker where
  | typeScript
  /-- The type checker for single-file components. -/
  | vueTsc
  /-- The language server for single-file components. -/
  | vls
  | esLint
  deriving DecidableEq, Repr

namespace Checker

/-- All checkers in the order in which a report runs them. -/
def all : List Checker := [.typeScript, .vueTsc, .esLint, .vls]

/-- The name of a checker. -/
def name : Checker → String
  | .typeScript => "TypeScript"
  | .vueTsc => "vue-tsc"
  | .vls => "VLS"
  | .esLint => "ESLint"

/-- The checker with exactly this name. -/
def ofName? (text : String) : Option Checker :=
  all.find? fun checker => checker.name == text

end Checker

end DiagnosticReport
