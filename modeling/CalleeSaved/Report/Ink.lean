import CalleeSaved.Diagnostic.Severity
import CalleeSaved.Text.Script

/-!
# Painted text

What a terminal makes of text, and whether anything is to be painted, is for the caller to say.  A
painter gives a text in a weight and perhaps a colour; the text itself may be what it gives.
-/

namespace CalleeSaved

/-- The weights of painted text. -/
inductive Weight
  | bold
  | dark
  deriving DecidableEq, Repr

/-- The text in a weight and perhaps a colour. -/
abbrev Painter := Weight → Option Colour → Script → Script

/-- The text in bold and a colour. -/
def Painter.bold (paint : Painter) (colour : Colour) (text : Script) : Script :=
  paint .bold (some colour) text

end CalleeSaved
