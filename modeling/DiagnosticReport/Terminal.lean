import DiagnosticReport.Record
import DiagnosticReport.Text.Style

/-!
# Terminal blocks

A record is shown as a block: its level with its message, the file with the
position, the code frame, and the conclusion.  What is absent is left out, and a
record without a level is labelled as an error.
-/

set_option autoImplicit false

namespace DiagnosticReport.Terminal

/-- The word on the label of a level. -/
def labelWord : Level → String
  | .error => "ERROR"
  | .warning => "WARNING"
  | .suggestion => "SUGGESTION"
  | .message => "MESSAGE"

/-- The style of the label of a level. -/
def labelStyle : Level → Text.Style
  | .error => .onBrightRed
  | .warning => .onBrightYellow
  | .suggestion => .onBrightBlue
  | .message => .onBrightCyan

/-- The label of a level, with the name of the checker in parentheses. -/
def label (colors : Bool) (name : Option Checker) (level : Level) : String :=
  let origin := name.elim "" fun checker => "(" ++ checker.name ++ ")"
  (labelStyle level).paint colors (" " ++ labelWord level ++ origin ++ " ")

/-- The line with the level and the message. -/
def headLine (colors : Bool) (name : Option Checker) (record : Record) : String :=
  label colors name (record.level.getD .error) ++ " " ++ record.message.getD ""

/-- The start of a location, behind colons. -/
def position (colors : Bool) (location : Location) : String :=
  ":" ++ Text.Style.yellow.paint colors (toString location.start.line.toInt) ++
    ":" ++ Text.Style.yellow.paint colors (toString location.start.column.toInt)

/-- The line with the file and the position, if the record has either. -/
def fileLine? (colors : Bool) (record : Record) : Option String :=
  if record.id.isSome || record.location.isSome then
    some (Text.Style.onBrightCyan.paint colors " FILE " ++ " " ++ record.id.getD "" ++
      record.location.elim "" (position colors) ++ "\n")
  else none

/-- The code frame, if the record has one that is not empty. -/
def frame? (record : Record) : Option String :=
  match record.codeFrame with
  | some frame => if frame.isEmpty then none else some (frame ++ "\n")
  | none => none

/-- The conclusion, if there is one. -/
def conclusion? (record : Record) : Option String :=
  if record.conclusion.isEmpty then none else some record.conclusion

/-- The block of a record, with the name of a checker in its label. -/
def block (colors : Bool) (name : Option Checker) (record : Record) : String :=
  String.intercalate "\n"
    (headLine colors name record ::
      ((fileLine? colors record).toList ++ (frame? record).toList ++ (conclusion? record).toList))

end DiagnosticReport.Terminal
