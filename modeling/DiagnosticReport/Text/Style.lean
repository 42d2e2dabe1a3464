/-!
# Terminal styles

A style is a list of display codes.  A text is painted by putting the opening
sequence of the style in front of it and the reset sequence behind it.  A reset
sequence inside the text would end the style early, so the opening sequence is
repeated after each.
-/

set_option autoImplicit false

namespace DiagnosticReport.Text

/-- The codes of a style, in the order emphasis, background, foreground. -/
structure Style where
  codes : List Nat
  deriving DecidableEq, Repr

namespace Style

/-- Bold. -/
def bold : Style := ⟨[1]⟩

/-- Dimmed. -/
def dimmed : Style := ⟨[2]⟩

/-- Red. -/
def red : Style := ⟨[31]⟩

/-- Yellow. -/
def yellow : Style := ⟨[33]⟩

/-- Bold red. -/
def boldRed : Style := ⟨[1, 31]⟩

/-- Bold green. -/
def boldGreen : Style := ⟨[1, 32]⟩

/-- Bold yellow. -/
def boldYellow : Style := ⟨[1, 33]⟩

/-- Bold black on bright red. -/
def onBrightRed : Style := ⟨[1, 101, 30]⟩

/-- Bold black on bright yellow. -/
def onBrightYellow : Style := ⟨[1, 103, 30]⟩

/-- Bold black on bright blue. -/
def onBrightBlue : Style := ⟨[1, 104, 30]⟩

/-- Bold black on bright cyan. -/
def onBrightCyan : Style := ⟨[1, 106, 30]⟩

/-- The sequence that turns a style on. -/
def opening (style : Style) : List Char :=
  '\x1b' :: '[' :: ([';'].intercalate (style.codes.map fun code => (toString code).toList) ++ ['m'])

/-- The sequence that turns every style off. -/
def reset : List Char := ['\x1b', '[', '0', 'm']

/-- A text with this sequence behind each reset sequence. -/
def reopen (sequence : List Char) : List Char → List Char
  | [] => []
  | '\x1b' :: '[' :: '0' :: 'm' :: rest => reset ++ sequence ++ reopen sequence rest
  | character :: rest => character :: reopen sequence rest

/-- A text in a style; unchanged where colours are off. -/
def paint (style : Style) (colors : Bool) (text : String) : String :=
  if colors then
    String.ofList (style.opening ++ reopen style.opening text.toList ++ reset)
  else text

end Style

end DiagnosticReport.Text
