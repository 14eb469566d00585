import CalleeSaved.Text.Basic

/-!
# Severities and colours

How serious a finding is, with its name, its colour on a terminal and its level in an exchange log.
-/

namespace CalleeSaved

/-- The colours of terminal text. -/
inductive Colour
  | red
  | green
  | yellow
  | blue
  | cyan
  | white
  deriving DecidableEq, Repr

namespace Colour

/-- The name of a colour. -/
def name : Colour → String
  | red => "red"
  | green => "green"
  | yellow => "yellow"
  | blue => "blue"
  | cyan => "cyan"
  | white => "white"

end Colour

/-- How serious a finding is. -/
inductive Severity
  | error
  | warning
  | style
  | information
  deriving DecidableEq, Repr

namespace Severity

/-- Every severity, the most serious first. -/
def all : List Severity :=
  [error, warning, style, information]

/-- The name of a severity. -/
def name : Severity → String
  | error => "error"
  | warning => "warning"
  | style => "style"
  | information => "information"

/-- The colour of a severity. -/
def colour : Severity → Colour
  | error => .red
  | warning => .yellow
  | style => .cyan
  | information => .white

/-- The level of a severity in an exchange log. -/
def level : Severity → String
  | error => "error"
  | warning => "warning"
  | style => "note"
  | information => "note"

/-- The severity with the given name, in either case and with blanks around it; any other text is
a warning. No character of another script has a letter of these names as its small form. -/
def ofText (text : Text) : Severity :=
  let lowered := String.ofList (text.trim.map Char.toLower)
  (all.find? fun severity => severity.name == lowered).getD warning

/-- The severity with the given name, as `ofText` reads it. -/
def ofString (s : String) : Severity :=
  ofText s.toList

end Severity
end CalleeSaved
