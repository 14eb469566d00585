import CalleeSaved.CommandLine.Memo
import CalleeSaved.Disk.System
import CalleeSaved.Routine.Report
import CalleeSaved.Text.Quoted

/-!
# The log of a run

**Records.**  A record has a level, the part of the tool that speaks, and a message.

**Steps of an analysis.**  All lines are read once to find the labels that start a routine, and
once more to find the end of each routine; then the number of routines is noted.  The body of each
routine is read while its usage is summed up and again while clobbers are looked for, with a note
of the size of the usage in between.  The outcome for the file comes last.

**Notes on a line.**  A line that is not understood is noted whenever it is read and not
remembered.  The ranges over two families in a transfer are noted whenever it is looked at as an
instruction.
-/

namespace CalleeSaved

/-- The level of a log record. -/
inductive LogLevel
  | debug
  | info
  | warning
  | error
  deriving DecidableEq, Repr

namespace LogLevel

/-- The rank of a level. -/
def rank : LogLevel → Nat
  | debug => 0
  | info => 1
  | warning => 2
  | error => 3

/-- The name of a level, in five columns. -/
def name : LogLevel → String
  | debug => "DEBUG"
  | info => "INFO "
  | warning => "WARNI"
  | error => "ERROR"

/-- A run shows records of the level at the given verbosity. -/
def shownAt (level : LogLevel) (verbosity : Nat) : Bool :=
  2 ≤ level.rank + verbosity

end LogLevel

/-- A log record. -/
structure LogRecord where
  level : LogLevel
  speaker : String
  message : String
  deriving DecidableEq, Repr

namespace LogRecord

/-- The record as a line with the time of day. -/
def render (time : String) (record : LogRecord) : String :=
  time ++ " [" ++ record.level.name ++ "] " ++ record.speaker ++ ": " ++ record.message ++ "\n"

/-- The record of a line that is not understood. -/
def unrecognized (line : Text) : LogRecord :=
  ⟨.debug, "m68k_regtrack.grammar", "unrecognised line: " ++ Text.quoted line.trim⟩

/-- The record of a range over two families. -/
def crossing (bounds : RegisterName × RegisterName) : LogRecord :=
  ⟨.debug, "m68k_regtrack.grammar",
    "ignoring cross-family register range " ++ bounds.1.toString ++ "-" ++ bounds.2.toString⟩

/-- The records of the ranges over two families in a line. -/
def crossings (line : Text) : List LogRecord :=
  match Line.ofText line with
  | .instruction statement =>
      match statement.transfer? with
      | some transfer => (transfer.entries.filterMap RegisterList.Entry.crossing?).map crossing
      | none => []
  | _ => []

/-- The record of the size of a usage. -/
def tracked (usage : Usage) : LogRecord :=
  ⟨.debug, "m68k_regtrack.tracker",
    "tracked touched=" ++ toString usage.touched.size ++
      " modified=" ++ toString usage.modified.size ++
      " saved=" ++ toString usage.saved.size⟩

/-- The record of the number of routines. -/
def located (report : FileReport) : LogRecord :=
  ⟨.debug, "m68k_regtrack.locator",
    "located " ++ toString report.routines.length ++ " subroutine(s) in " ++
      toString report.lines.length ++ " line(s)"⟩

/-- The record of the outcome for a file. -/
def outcome (report : FileReport) : LogRecord :=
  ⟨.info, "m68k_regtrack.analysis",
    report.path.escaped ++ ": " ++ toString report.routines.length ++ " subroutine(s), " ++
      toString report.clobbers.length ++ " unsafe site(s)"⟩

/-- The record of the start of an analysis. -/
def analysing (path : Script) : LogRecord :=
  ⟨.info, "m68k_regtrack.analysis", "analysing " ++ path.escaped⟩

/-- The record of a problem with the settings. -/
def settingsProblem (problem : String) : LogRecord :=
  ⟨.warning, "m68k_regtrack", "AnalyzerConfig: " ++ problem⟩

/-- The record of a failure that ends the run. -/
def failure (message : String) : LogRecord :=
  ⟨.error, "m68k_regtrack", message⟩

/-- The record of an exchange log that could not be written. -/
def lostLog (path : Script) (error : DiskError) : LogRecord :=
  ⟨.error, "m68k_regtrack.reporter",
    "cannot write SARIF to " ++ path.escaped ++ ": " ++ error.message⟩

end LogRecord

/-- The records of a run so far, the latest first, and the lines that are remembered. -/
structure Trace where
  memo : Memo := {}
  latestFirst : List LogRecord := []

namespace Trace

/-- The records in order. -/
def records (trace : Trace) : List LogRecord :=
  trace.latestFirst.reverse

/-- The trace with a further record. -/
def note (trace : Trace) (record : LogRecord) : Trace :=
  { trace with latestFirst := record :: trace.latestFirst }

/-- The trace after a line is read. -/
def read (trace : Trace) (line : Text) : Trace :=
  let key := String.ofList line
  let known := trace.memo.remembers key
  let trace := { trace with memo := trace.memo.read key }
  if known || Line.ofText line != .unknown then trace else trace.note (.unrecognized line)

/-- The trace after a line is read and looked at as an instruction. -/
def classify (trace : Trace) (line : Text) : Trace :=
  (LogRecord.crossings line).foldl note (trace.read line)

/-- Of the lines after the label of a routine, those that are read to find its end: the body, and
the line after it unless the body ends with a return. -/
def readForEnd (span : Span) (after : List Text) : List Text :=
  let size := (span.stop - span.start).toNat
  let body := after.take size
  if body.getLast?.any fun line => (Line.ofText line).isReturn then body
  else after.take (size + 1)

/-- The trace after the ends of routines are found, from the line with the given index on. -/
def locate (trace : Trace) (index : Nat) : List RoutineReport → List Text → Trace
  | _, [] => trace
  | [], line :: rest => locate (trace.read line) (index + 1) [] rest
  | routine :: later, line :: rest =>
      let trace := trace.read line
      if routine.span.start = index then
        locate ((readForEnd routine.span rest).foldl read trace) (index + 1) later rest
      else locate trace (index + 1) (routine :: later) rest

/-- The trace after the analysis of a routine. -/
def routine (lines : List Text) (trace : Trace) (routine : RoutineReport) : Trace :=
  let body := routine.span.body lines
  body.foldl classify ((body.foldl classify trace).note (.tracked routine.verdict.usage))

/-- The trace after the analysis of a file. -/
def file (trace : Trace) (report : FileReport) : Trace :=
  let confirmed := report.lines.foldl read trace
  let located := (confirmed.locate 0 report.routines report.lines).note (.located report)
  (report.routines.foldl (routine report.lines) located).note (.outcome report)

end Trace
end CalleeSaved
