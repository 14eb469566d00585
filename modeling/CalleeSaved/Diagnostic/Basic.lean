import CalleeSaved.Diagnostic.Severity
import CalleeSaved.Json
import CalleeSaved.Routine.Caption
import CalleeSaved.Routine.Report

/-!
# Diagnostics

**Findings.**  A diagnostic points at a range of a source line, counted from one, and carries
notes, suggestions and evidence.

**Forms.**  One line for people, one line for editors, and a document.  The lines hold numbers, and
cannot be written when one of these cannot.

**Clobbers.**  `Diagnostic.ofClobber` turns a clobbering line of a routine into a diagnostic that
covers the line without its surrounding blanks.
-/

namespace CalleeSaved

/-- A place in a source file.  Column zero stands for the whole line. -/
structure Location where
  file : Script := []
  line : Int := 0
  column : Int := 0
  deriving DecidableEq, Repr

/-- The location as text. -/
def Location.describe (limits : Limits) (location : Location) : Except NumberError Script := do
  let place := location.file ++ ":" ++ (← limits.number location.line)
  if location.column = 0 then return place
  else return place ++ ":" ++ (← limits.number location.column)

/-- The registers that support a finding, by name in alphabetical order. -/
structure Evidence where
  modified : List String := []
  saved : List String := []
  deriving DecidableEq, Repr

/-- The names of the registers of a set in alphabetical order, address registers first. -/
def Evidence.names (s : RegisterSet) : List String :=
  let ofFamily (f : Family) := s.toList.filter fun r => r.family == f
  (ofFamily .address ++ ofFamily .data).map Register.name

/-- The evidence of a usage. -/
def Evidence.ofUsage (usage : Usage) : Evidence :=
  ⟨names usage.modified, names usage.saved⟩

/-- A finding. -/
structure Diagnostic where
  id : String
  message : String
  severity : Severity
  location : Location
  /-- The column after the highlighted range. -/
  endColumn : Int := 0
  register : String := ""
  routine : String := ""
  notes : List String := []
  helps : List String := []
  evidence : Evidence := {}
  deriving DecidableEq, Repr

namespace Diagnostic

/-- The diagnostic as a document. -/
def toJson (diagnostic : Diagnostic) : Json :=
  .obj [
    ("file", .str diagnostic.location.file),
    ("linenr", .num diagnostic.location.line),
    ("column", .num diagnostic.location.column),
    ("endColumn", .num diagnostic.endColumn),
    ("severity", .str diagnostic.severity.name),
    ("message", .str diagnostic.message),
    ("errorId", .str diagnostic.id),
    ("register", .str diagnostic.register),
    ("subroutine", .str diagnostic.routine)]

/-- The line that editors read. -/
def editorLine (limits : Limits) (diagnostic : Diagnostic) : Except NumberError Script := do
  let place ← diagnostic.location.describe limits
  return place ++ ": " ++ diagnostic.severity.name ++ ": " ++ diagnostic.message ++
    " [" ++ diagnostic.id ++ "]"

/-- The line that people read. -/
def describe (limits : Limits) (diagnostic : Diagnostic) : Except NumberError Script := do
  let line ← limits.number diagnostic.location.line
  return "[" ++ diagnostic.location.file ++ ":" ++ line ++ "]: (" ++ diagnostic.severity.name ++
    ") " ++ diagnostic.message ++ " [" ++ diagnostic.id ++ "]"

/-- The identifier of clobber diagnostics. -/
def clobberId : String :=
  "unsafeRegister"

/-- The advice that goes with every clobber. -/
def clobberHint : String :=
  "Please double-check if this is intentional. If not, preserved " ++
    "registers (d2-d7, a2-a6) should be saved before modification."

/-- The column of the first character that is no blank, counted from one. -/
def startColumn (text : Text) : Nat :=
  text.length - text.trimStart.length + 1

/-- The column after the last character that is no blank, counted from one. -/
def stopColumn (text : Text) : Nat :=
  text.trimEnd.length + 1

/-- The diagnostic for a clobbering line of a routine.  A carriage return at the end belongs to no
column. -/
def ofClobber (severity : Severity) (file : FileReport) (routine : RoutineReport)
    (clobber : Clobber) : Diagnostic :=
  let text := Text.trimEndWhile (· == '\r') (file.lines[clobber.line.toNat]?.getD [])
  { id := clobberId
    message := clobber.message
    severity := severity
    location := ⟨file.path, clobber.line + 1, startColumn text⟩
    endColumn := stopColumn text
    register := clobber.register.name
    routine := routine.span.label
    notes := [
      "in subroutine '" ++ routine.span.label ++ "' (lines " ++
        toString (routine.span.start + 1) ++ "-" ++ toString (routine.span.stop + 1) ++ ")",
      clobberHint]
    helps := [Caption.savePattern clobber.register.family]
    evidence := Evidence.ofUsage routine.verdict.usage }

/-- The diagnostics of a file, routine by routine. -/
def ofReport (severity : Severity) (file : FileReport) : List Diagnostic :=
  file.routines.flatMap fun routine => routine.clobbers.map (ofClobber severity file routine)

end Diagnostic
end CalleeSaved
