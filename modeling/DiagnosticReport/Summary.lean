import DiagnosticReport.Filter
import DiagnosticReport.Text.Style

/-!
# Summary lines

One line a checker: `[name] Found 1 error and 2 warnings`.  Only counts above
one take the plural.  The line is red if there are errors, yellow if there are
warnings only, and green if there is neither.
-/

set_option autoImplicit false

namespace DiagnosticReport

/-- The colour of a summary line. -/
inductive SummaryColor where
  | red
  | yellow
  | green
  deriving DecidableEq, Repr

/-- A summary line and its colour. -/
structure Summary where
  text : String
  color : SummaryColor
  deriving DecidableEq, Repr

/-- The name of the colour. -/
def SummaryColor.name : SummaryColor → String
  | .red => "Red"
  | .yellow => "Yellow"
  | .green => "Green"

/-- The style of the line. -/
def SummaryColor.style : SummaryColor → Text.Style
  | .red => .boldRed
  | .yellow => .boldYellow
  | .green => .boldGreen

namespace Summary

/-- A count with its noun. -/
def quantity (count : Nat) (noun : String) : String :=
  toString count ++ " " ++ noun ++ (if count > 1 then "s" else "")

/-- A line behind the name of a checker. -/
def behindName (name line : String) : String := "[" ++ name ++ "] " ++ line

/-- The summary of these counts. -/
def compose (name : String) (counts : Counts) : Summary where
  text := behindName name
    ("Found " ++ quantity counts.errors "error" ++ " and " ++ quantity counts.warnings "warning")
  color := if counts.errors > 0 then .red else if counts.warnings > 0 then .yellow else .green

/-- The line as it is shown. -/
def display (summary : Summary) (colors : Bool) : String :=
  summary.color.style.paint colors summary.text

end Summary

end DiagnosticReport
