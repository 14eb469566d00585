import CalleeSaved.CommandLine.Command
import CalleeSaved.CommandLine.Host
import CalleeSaved.CommandLine.Log
import CalleeSaved.Diagnostic.Inspector
import CalleeSaved.Disk.Source

/-!
# Running a command

A run is a function of the command line, the host and the state of a file system.  It gives an exit
code, what is written to the standard streams, and the state of the file system afterwards.

**Reading.**  All files are read and analysed before anything is written.  The first that cannot be
read ends the run.

**Writing.**  The output file is made, with the directories on the way to it, before the first
byte is written.  Output is written piece by piece, up to the first that cannot be laid out or
written.  The last line of a text report and the exchange log follow in any case.  The last line
reaches an output file when the exchange log has been written.

**Halts.**  A fault of the file system or of standard output makes a run fail.  Everything else that
halts a run leaves it without an exit code: a void value where a text is needed, a name that leads
nowhere, and a piece that cannot be laid out or encoded.

**Exit codes.**  0 when nothing is wrong, 1 when a register is clobbered, 2 when the run failed.
-/

namespace CalleeSaved

/-- What a run writes to standard error. -/
inductive Notice
  | text (s : String)
  | log (record : LogRecord)
  deriving DecidableEq, Repr

namespace Notice

/-- The notice as text, at a verbosity and with the time of day. -/
def render (verbosity : Nat) (time : String) : Notice → String
  | text s => s
  | log record => if record.level.shownAt verbosity then record.render time else ""

end Notice

namespace Run

/-- The exit code of a run that found nothing. -/
def exitClean : Nat := 0

/-- The exit code of a run that found a clobbered register. -/
def exitClobbered : Nat := 1

/-- The exit code of a run that failed. -/
def exitFailed : Nat := 2

/-- What ends a run without an exit code. -/
inductive RunError
  | nulInPath
  | noHome
  | linkLoop (path : Script)
  | voidSeverity
  | voidSuppression
  | voidOutput
  | render (error : RenderError)
  | refused (message : String)
  deriving DecidableEq, Repr

/-- The wording of an error that ends a run. -/
def RunError.message : RunError → String
  | nulInPath => SourceError.nulInPath.message
  | noHome => "Could not determine home directory."
  | linkLoop path => "Symlink loop from " ++ path.quoted
  | voidSeverity => "'list' object has no attribute 'strip'"
  | voidSuppression => "unhashable type: 'list'"
  | voidOutput => "expected str, bytes or os.PathLike object, not list"
  | render error => error.message
  | refused message => message

/-- What halts a run. -/
inductive Halt
  | error (error : RunError)
  | fault (error : DiskError)
  deriving DecidableEq, Repr

namespace Halt

/-- The halt at a text that cannot be written. -/
def ofWrite : WriteError → Halt
  | .refused message => .error (.refused message)
  | .fault reason => .fault ⟨reason, none⟩

/-- What there is to say about a halt. -/
def records : Halt → List LogRecord
  | .error _ => []
  | .fault reason => [.failure ("I/O failure: " ++ reason.message)]

end Halt

end Run

/-- The effects of a run on a file system with states in `σ`. -/
structure Outcome (σ : Type) where
  /-- The exit code, unless the run is halted. -/
  code : Nat
  halt : Option Run.Halt := none
  stdout : Script := []
  notices : List Notice := []
  verbosity : Nat := 0
  disk : σ

namespace Outcome

variable {σ : Type}

/-- The exit code, or what ends the run without one. -/
def ending (outcome : Outcome σ) : Except Run.RunError Nat :=
  match outcome.halt with
  | none => .ok outcome.code
  | some (.fault _) => .ok Run.exitFailed
  | some (.error error) => .error error

/-- What a run writes to standard error. -/
def stderr (time : String) (outcome : Outcome σ) : String :=
  String.join (outcome.notices.map (Notice.render outcome.verbosity time))

end Outcome

namespace Run

variable {σ : Type} [FileSystem σ]

/-- The text of a value, which must not be void. -/
def textOf (error : RunError) : SwitchValue String → Except RunError String
  | .text s => .ok s
  | .void => .error error

/-- The analyses of files, unless one could not be read, and the trace of the reading. -/
structure Gathered where
  reports : Except SourceError (List FileReport)
  trace : Trace

/-- Read and analyse files one after the other, up to the first that cannot be read. -/
def gather (disk : σ) (settings : Settings) (trace : Trace) : List Script → Gathered
  | [] => ⟨.ok [], trace⟩
  | path :: rest =>
      let trace := trace.note (.analysing path)
      match FileSystem.report disk settings path with
      | .error error => ⟨.error error, trace⟩
      | .ok report =>
          let later := gather disk settings (trace.file report) rest
          { later with reports := later.reports.map (report :: ·) }

/-- Where output goes. -/
inductive Sink
  | stdout
  | file (place : Place)
  deriving DecidableEq, Repr

/-- The output goes to the standard stream. -/
def toStdout (output : Option (SwitchValue Script)) : Bool :=
  output == none || output == some (.text "-")

/-- Make the output file, with the directories on the way to it.  These stay when the file cannot be
made. -/
def makeFile (disk : σ) (path : Path) : σ × Except Halt Sink :=
  match FileSystem.resolve disk path with
  | .error (.loop path) => (disk, .error (.error (.linkLoop path)))
  | .error (.fault error) => (disk, .error (.fault error))
  | .ok place =>
      match FileSystem.makeDirectories disk place.dropLast with
      | (made, some error) => (made, .error (.fault error))
      | (made, none) =>
          match FileSystem.create made ⟨"/", place⟩ with
          | .ok (opened, file) => (opened, .ok (.file file))
          | .error fault => (made, .error (.fault ⟨fault, some place.name⟩))

/-- Open the output: standard output, or a file that is made.  A tilde at the start of its name stands
for a home directory. -/
def makeSink (host : Host) (disk : σ) (output : Option (SwitchValue Script)) :
    σ × Except Halt Sink :=
  match output with
  | none => (disk, .ok .stdout)
  | some .void => (disk, .error (.error .voidOutput))
  | some (.text name) =>
      let path := Path.ofScript name
      if name == "-" then (disk, .ok .stdout)
      else if path.homeOf?.any Path.holdsNul then (disk, .error (.error .nulInPath))
      else
        match host.expand? path with
        | none => (disk, .error (.error .noHome))
        | some path =>
            if Path.holdsNul name then (disk, .error (.error .nulInPath))
            else makeFile disk path

/-- What a run has done so far: the state of the file system, what was written to standard output, and
how many bytes were written to the output file. -/
structure Progress (σ : Type) where
  disk : σ
  stdout : Script := []
  offset : Nat := 0

/-- Write a piece to a sink, and say why it could not be written. -/
def put (host : Host) (sink : Sink) (progress : Progress σ) (piece : Script) :
    Progress σ × Option Halt :=
  match sink with
  | .stdout =>
      match host.stdout.failure? progress.stdout piece with
      | some error => (progress, some (.ofWrite error))
      | none => ({ progress with stdout := progress.stdout ++ piece }, none)
  | .file place =>
      match piece.refusal? with
      | some message => (progress, some (.error (.refused message)))
      | none =>
          let (disk, fault) := FileSystem.writeAt progress.disk place progress.offset piece.bytes
          ({ progress with disk, offset := progress.offset + piece.bytes.length },
            fault.map fun fault => .fault ⟨fault, none⟩)

/-- Write pieces to a sink, up to the first that could not be laid out or written. -/
def putAll (host : Host) (sink : Sink) (progress : Progress σ) :
    List (Except RenderError Script) → Progress σ × Option Halt
  | [] => (progress, none)
  | .error error :: _ => (progress, some (.error (.render error)))
  | .ok piece :: rest =>
      match put host sink progress piece with
      | (progress, some halt) => (progress, some halt)
      | (progress, none) => putAll host sink progress rest

/-- Write the exchange log of a printer, if it has a file for it.  A fault is only noted. -/
def writeLog (progress : Progress σ) (printer : Printer) :
    Progress σ × List LogRecord × Option Halt :=
  match printer.logPath with
  | none => (progress, [], none)
  | some path =>
      match printer.log with
      | .error error => (progress, [], some (.error (.render (.number error))))
      | .ok text =>
          if Path.holdsNul path then (progress, [], some (.error .nulInPath))
          else
            match FileSystem.create progress.disk (Path.ofScript path) with
            | .error fault =>
                (progress, [.lostLog path ⟨fault, some (Path.ofScript path).toScript⟩], none)
            | .ok (disk, file) =>
                let (disk, fault) := FileSystem.writeAt disk file 0 (Script.bytes text)
                ({ progress with disk },
                  (fault.map fun fault => .lostLog path ⟨fault, none⟩).toList, none)

/-- The printer of a check, with the sources of the files.  On standard output the layout is the
chosen one, or else the one that suits the stream. -/
def printer (host : Host) (options : CheckOptions) (reports : List FileReport) : Printer :=
  let terminal := toStdout options.job.output && options.colour.getD host.stdout.isTerminal
  let start : Printer := {
    layout := if terminal then .terminal else .plain
    limits := host.limits
    paint := host.paint
    logPath := Printer.chooseLogPath host.environment none }
  reports.foldl (fun printer report => printer.withSource report.path report.lines) start

/-- Print diagnostics to a sink, up to the first that could not be laid out or written.  The latter is
counted, and not logged. -/
def printAll (host : Host) (sink : Sink) (progress : Progress σ) (printer : Printer) :
    List Diagnostic → Progress σ × Printer × Option Halt
  | [] => (progress, printer, none)
  | diagnostic :: rest =>
      match printer.print diagnostic with
      | (next, .error error) => (progress, next, some (.error (.render error)))
      | (next, .ok pieces) =>
          match putAll host sink progress (pieces.map .ok) with
          | (progress, some halt) => (progress, printer.counted diagnostic, some halt)
          | (progress, none) => printAll host sink progress next rest

/-- Write the last line of a report and the exchange log.  Standard output takes the line at once, a
file takes it when it is closed. -/
def finish (host : Host) (sink : Sink) (progress : Progress σ) (printer : Printer) :
    Progress σ × List LogRecord × Option Halt :=
  match sink with
  | .stdout =>
      match put host sink progress printer.summary with
      | (progress, some halt) => (progress, [], some halt)
      | (progress, none) => writeLog progress printer
  | .file _ =>
      let (progress, records, logHalt) := writeLog progress printer
      let (progress, halt) := put host sink progress printer.summary
      (progress, records, halt.or logHalt)

/-- Write a text report to a sink, and the exchange log that goes with it.  What halts the end of the
report hides what halted the report. -/
def writeReport (host : Host) (sink : Sink) (progress : Progress σ) (printer : Printer)
    (diagnostics : List Diagnostic) : Progress σ × List LogRecord × Option Halt :=
  let (progress, printer, halt) := printAll host sink progress printer diagnostics
  let (progress, records, lastHalt) := finish host sink progress printer
  (progress, records, lastHalt.or halt)

/-- A line of output, which may hold numbers. -/
def linePiece (line : Except NumberError Script) : Except RenderError Script :=
  (Layout.written line).map (· ++ "\n")

/-- A document as a piece of output. -/
def documentPiece (limits : Limits) (document : Json) : Except RenderError Script :=
  linePiece ((document.write limits Json.pretty).map Script.ofString)

/-- The pieces of a check in a format for other programs. -/
def exportPieces (limits : Limits) (format : CheckFormat) (diagnostics : List Diagnostic) :
    List (Except RenderError Script) :=
  match format with
  | .text => []
  | .gcc => diagnostics.map fun diagnostic => linePiece (diagnostic.editorLine limits)
  | .json => [documentPiece limits (.arr (diagnostics.map Diagnostic.toJson))]
  | .sarif => [documentPiece limits (Sarif.log toolName toolVersion diagnostics)]

/-- Write the diagnostics of a check to a sink. -/
def writeCheck (host : Host) (sink : Sink) (progress : Progress σ) (options : CheckOptions)
    (reports : List FileReport) (diagnostics : List Diagnostic) :
    Progress σ × List LogRecord × Option Halt :=
  match options.format with
  | .text => writeReport host sink progress (printer host options reports) diagnostics
  | format =>
      let pieces := exportPieces host.limits format diagnostics
      let (progress, halt) := putAll host sink progress pieces
      (progress, [], halt)

/-- The diagnostics of analyses. -/
def diagnostics (settings : Settings) (suppress : List String)
    (reports : List FileReport) : List Diagnostic :=
  ((suppress.foldl Inspector.suppress (Inspector.new settings)).inspectAll reports).2

/-- The settings that decide about routines. -/
def jobSettings (job : Job) : Settings :=
  { shareEntryLabels := job.shareEntryLabels }

/-- The diagnostics of analyses under the options of a check, none of which must be void. -/
def judge (options : CheckOptions) (reports : List FileReport) :
    Except RunError (List Diagnostic) := do
  let severity ← textOf .voidSeverity options.severity
  let suppress ← options.suppress.mapM (textOf .voidSuppression)
  return diagnostics { jobSettings options.job with severity } suppress reports

/-- What there is to say about the severity of a check before it starts. -/
def severityWarnings (severity : SwitchValue String) : List LogRecord :=
  if severity.text?.any Settings.severityNames.contains then []
  else [.settingsProblem (Settings.severityProblem severity.display)]

/-- The outcome of a run that is halted before it writes. -/
def halted (disk : σ) (log : List LogRecord) (halt : Halt) : Outcome σ :=
  { code := exitFailed, halt := some halt, notices := (log ++ halt.records).map .log, disk }

/-- The outcome of a run that could not read its files. -/
def unread (disk : σ) (log : List LogRecord) (error : SourceError) : Outcome σ :=
  match error with
  | .nulInPath => halted disk log (.error .nulInPath)
  | .unreadable _ _ =>
      let records := log ++ [LogRecord.failure error.message]
      { code := exitFailed, notices := records.map .log, disk }

/-- The outcome of a run that has written its output, up to a halt. -/
def finished (code : Nat) (log : List LogRecord)
    (written : Progress σ × List LogRecord × Option Halt) : Outcome σ :=
  let (progress, records, halt) := written
  { code
    halt
    stdout := progress.stdout
    notices := (log ++ records ++ (halt.map Halt.records).getD []).map .log
    disk := progress.disk }

/-- The exit code that tells whether something was found. -/
def codeOf (clean : Bool) : Nat :=
  if clean then exitClean else exitClobbered

/-- Run a check. -/
def check (host : Host) (disk : σ) (options : CheckOptions) : Outcome σ :=
  let gathered := gather disk (jobSettings options.job) {} options.job.files
  let log := severityWarnings options.severity ++ gathered.trace.records
  match gathered.reports with
  | .error error => unread disk log error
  | .ok reports =>
      match judge options reports with
      | .error error => halted disk log (.error error)
      | .ok found =>
          match makeSink host disk options.job.output with
          | (disk, .error halt) => halted disk log halt
          | (disk, .ok sink) =>
              finished (codeOf found.isEmpty) log
                (writeCheck host sink { disk } options reports found)

/-- The pieces of the captions of a routine of a file. -/
def routinePieces (limits : Limits) (emoji : Bool) (report : FileReport) (routine : RoutineReport) :
    List (Except RenderError Script) :=
  let headline := (limits.number (routine.span.start + 1)).map fun (number : String) =>
    report.path ++ ":" ++ number ++ ": " ++ routine.span.label
  linePiece headline ::
    (Caption.lines emoji routine.verdict).map fun (line : String) =>
      linePiece (.ok ("    " ++ line))

/-- The pieces of a description. -/
def captionPieces (limits : Limits) (options : CaptionOptions) (reports : List FileReport) :
    List (Except RenderError Script) :=
  match options.format with
  | .json => [documentPiece limits (.arr (reports.map FileReport.toJson))]
  | .text =>
      reports.flatMap fun report =>
        report.routines.flatMap (routinePieces limits options.emoji report)

/-- Run a description. -/
def annotate (host : Host) (disk : σ) (options : CaptionOptions) : Outcome σ :=
  let gathered := gather disk (jobSettings options.job) {} options.job.files
  let log := gathered.trace.records
  match gathered.reports with
  | .error error => unread disk log error
  | .ok reports =>
      match makeSink host disk options.job.output with
      | (disk, .error halt) => halted disk log halt
      | (disk, .ok sink) =>
          let pieces := captionPieces host.limits options reports
          let (progress, halt) := putAll host sink { disk } pieces
          finished (codeOf (reports.all FileReport.isClean)) log (progress, [], halt)

/-- Run a command. -/
def command (host : Host) (disk : σ) : Command → Outcome σ
  | .check options => check host disk options
  | .annotate options => annotate host disk options

/-- Run a command line.  A fault of the stream does not keep a text from counting as shown. -/
def ofWords (host : Host) (disk : σ) (words : List String) : Outcome σ :=
  match Request.ofWords words with
  | .display text =>
      match host.stdout.failure? [] text with
      | none => { code := exitClean, stdout := text, disk }
      | some (.fault _) => { code := exitClean, disk }
      | some (.refused message) => halted disk [] (.error (.refused message))
  | .misuse text => { code := exitFailed, notices := [.text text], disk }
  | .nothing verbosity =>
      { code := exitFailed, notices := [.text Manual.general.help], verbosity, disk }
  | .run verbosity cmd => { command host disk cmd with verbosity }

end Run
end CalleeSaved
