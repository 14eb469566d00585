import CalleeSaved.Report.Ink
import CalleeSaved.Report.Sarif
import CalleeSaved.Report.Tally

/-!
# The printer

**Layouts.**  Plain text has one line for each diagnostic and its notes below.  The terminal layout
shows the source line with the range underlined, the notes and the suggestions.

**Failures.**  A suggestion without a line cannot be laid out, and neither can a number or a run of
characters beyond the limits of the machine.  Then nothing is shown.

**State.**  A printer counts and keeps every diagnostic that it is given.  It also collects those
that it could show for an exchange log.
-/

namespace CalleeSaved

/-- The name of the tool. -/
def toolName : String :=
  "m68k-regtrack"

/-- The version of the tool. -/
def toolVersion : String :=
  "0.1.0"

/-- The two ways to show a diagnostic. -/
inductive Layout
  | plain
  | terminal
  deriving DecidableEq, Repr

/-- Why a diagnostic cannot be shown: a suggestion has no line, a number cannot be written, or a run
of characters is so wide that it cannot be counted or that there is no room for it. -/
inductive RenderError
  | emptyHelp
  | number (error : NumberError)
  | countless
  | tooWide
  deriving DecidableEq, Repr

/-- The wording of a rendering error. -/
def RenderError.message : RenderError → String
  | emptyHelp => "not enough values to unpack (expected at least 1, got 0)"
  | number error => error.message
  | countless => "cannot fit 'int' into an index-sized integer"
  | tooWide => ""

/-- Source lines by file, the latest first. -/
abbrev Sources := List (Script × List Text)

namespace Layout

/-- Spaces in the given number. -/
def spaces (n : Nat) : String :=
  String.ofList (List.replicate n ' ')

/-- The source line that a diagnostic is about. -/
def sourceLine? (sources : Sources) (location : Location) : Option Text :=
  match sources.lookup location.file with
  | none => none
  | some lines => if 0 < location.line then lines[location.line.toNat - 1]? else none

/-- The character, as often as the width says. -/
def fill (limits : Limits) (c : Char) (width : Int) : Except RenderError String :=
  if limits.count < width then .error .countless
  else if limits.room < width then .error .tooWide
  else .ok (String.ofList (List.replicate width.toNat c))

/-- A text with numbers, as a part of a layout. -/
def written {α : Type} (text : Except NumberError α) : Except RenderError α :=
  text.mapError .number

/-- The source line with the range of the diagnostic underlined. -/
def excerpt (limits : Limits) (paint : Painter) (sources : Sources) (diagnostic : Diagnostic) :
    Except RenderError (List Script) :=
  let location := diagnostic.location
  match sourceLine? sources location with
  | none => .ok []
  | some source => do
      let shown := String.ofList (Text.trimEndWhile (fun c => c == '\r' || c == '\n') source)
      let number := " " ++ (← written (limits.number location.line))
      let bar := paint.bold .blue "|"
      let indent ← fill limits ' ' (location.column - 1)
      let underline ← fill limits '^' (max (diagnostic.endColumn - location.column) 1)
      let remark := underline ++ " " ++ diagnostic.register ++ " written here"
      return [" " ++ paint.bold .blue number ++ " " ++ bar ++ " " ++ shown,
        " " ++ spaces (number.length + 1) ++ " " ++ bar ++ " " ++ indent ++
          paint.bold diagnostic.severity.colour remark]

/-- The lines of a suggestion. -/
def helpLines (paint : Painter) (help : String) : Except RenderError (List Script) :=
  match Text.paragraphLines help.toList with
  | [] => .error .emptyHelp
  | first :: rest =>
      .ok (("  = " ++ paint.bold .green "help" ++ ": " ++ String.ofList first) ::
        rest.map fun line => Script.ofString (spaces 10 ++ String.ofList line))

/-- The lines of the terminal layout of a diagnostic. -/
def terminalLines (limits : Limits) (paint : Painter) (sources : Sources)
    (diagnostic : Diagnostic) : Except RenderError (List Script) := do
  let kind := diagnostic.severity.name ++ "[" ++ diagnostic.id ++ "]"
  let headline :=
    paint.bold diagnostic.severity.colour kind ++ ": " ++ paint .bold none diagnostic.message
  let place ← written (diagnostic.location.describe limits)
  let shown ← excerpt limits paint sources diagnostic
  let notes := diagnostic.notes.map fun (note : String) =>
    "  = " ++ paint.bold .cyan "note" ++ ": " ++ note
  let helps ← diagnostic.helps.mapM (helpLines paint)
  let closing ← written (diagnostic.describe limits)
  return [headline, "  " ++ paint.bold .blue "-->" ++ " " ++ place] ++ shown ++ notes ++
    helps.flatten ++ [paint .dark none closing]

/-- The lines of the plain layout of a diagnostic. -/
def plainLines (limits : Limits) (diagnostic : Diagnostic) :
    Except RenderError (List Script) := do
  let headline ← written (diagnostic.describe limits)
  return headline :: diagnostic.notes.map fun note => Script.ofString ("  note: " ++ note)

/-- A diagnostic in a layout, in the pieces that are written one after the other. -/
def render (layout : Layout) (limits : Limits) (paint : Painter) (sources : Sources)
    (diagnostic : Diagnostic) : Except RenderError (List Script) :=
  match layout with
  | plain => do
      return (← plainLines limits diagnostic).map (· ++ "\n")
  | terminal => do
      let lines ← terminalLines limits paint sources diagnostic
      return [List.intercalate "\n" lines ++ "\n\n"]

end Layout

/-- The variables of an environment. -/
abbrev Environment := List (String × Script)

/-- The value of a variable that is set and not empty. -/
def Environment.value? (environment : Environment) (name : String) : Option Script :=
  (environment.lookup name).filter fun value => !value.isEmpty

/-- A printer and what it has been given so far. -/
structure Printer where
  layout : Layout
  limits : Limits
  paint : Painter
  toolName : String := CalleeSaved.toolName
  toolVersion : String := CalleeSaved.toolVersion
  tally : Tally := {}
  diagnostics : Array Diagnostic := #[]
  sources : Sources := []
  /-- The file for the exchange log, if one is to be written. -/
  logPath : Option Script := none
  /-- The diagnostics of the exchange log: those that could be shown. -/
  logged : Array Diagnostic := #[]

namespace Printer

/-- The printer with the lines of a file, in place of those it had for the file. -/
def withSource (printer : Printer) (file : Script) (lines : List Text) : Printer :=
  { printer with sources := (file, lines) :: printer.sources }

/-- The printer with a diagnostic counted and kept. -/
def counted (printer : Printer) (diagnostic : Diagnostic) : Printer :=
  { printer with
    tally := printer.tally.record diagnostic.severity
    diagnostics := printer.diagnostics.push diagnostic }

/-- The pieces that show a diagnostic. -/
def pieces (printer : Printer) (diagnostic : Diagnostic) : Except RenderError (List Script) :=
  printer.layout.render printer.limits printer.paint printer.sources diagnostic

/-- The printer after a diagnostic, and the pieces that show it. -/
def print (printer : Printer) (diagnostic : Diagnostic) :
    Printer × Except RenderError (List Script) :=
  match printer.pieces diagnostic with
  | .error e => (printer.counted diagnostic, .error e)
  | .ok pieces =>
      ({ printer.counted diagnostic with logged := printer.logged.push diagnostic }, .ok pieces)

/-- The colour of the summary. -/
def summaryColour (tally : Tally) : Colour :=
  if tally.errors ≠ 0 then .red else if tally.total ≠ 0 then .yellow else .green

/-- The last line of the report. -/
def summary (printer : Printer) : Script :=
  match printer.layout with
  | .plain => "  " ++ printer.tally.summary ++ "\n"
  | .terminal =>
      printer.paint.bold (summaryColour printer.tally) ("  ╰─ " ++ printer.tally.summary) ++ "\n"

/-- The text of the exchange log. -/
def log (printer : Printer) : Except NumberError String :=
  Sarif.render printer.limits printer.toolName printer.toolVersion printer.logged.toList

/-- The variable that names the file for the exchange log. -/
def logVariable : String := "REGTRACK_SARIF"

/-- The file for the exchange log: the given one, or else the one that the environment names.  An
empty name is none. -/
def chooseLogPath (environment : Environment) (given : Option Script) : Option Script :=
  (given.filter fun path => !path.isEmpty).or (environment.value? logVariable)

end Printer
end CalleeSaved
