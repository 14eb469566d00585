import CalleeSaved.CommandLine.Run
import CalleeSaved.Proofs.Diagnostic.History
import CalleeSaved.Proofs.Report.Encoding
import CalleeSaved.Proofs.Report.Showing

/-!
# Runs that can write their output

A run that has read its files can be halted by its options, by something that cannot be laid out, or
by the place where the output goes.  This module shows that on a machine that holds the lines of the
files only the last is left.

**Reading.**  `reports_gather`: the files are read one by one.  `reports_judge`: the machine can show
what is found in them.

**Writing.**  `HaltsAt` is a halt at a piece that a sink does not take, or at the name of the exchange
log.  `haltsAt_of_writeCheck` and `haltsAt_of_putAll`: the writing meets no others.

**Endings.**  `Writable` is a run of a command that is not halted by its output, on a machine that
holds the lines.  `Writable.ending_check` and `Writable.ending_annotate`: how such a run ends.

**Outputs.**  `Accepts` is an output that can be opened and takes what a job may write there; this is
said without the run.  `Accepts.writable`: it makes the run writable.
-/

namespace CalleeSaved

open Partial

namespace Printer

/-- The printer works for the host, and the machine can show all diagnostics of its exchange log. -/
structure Serves (printer : Printer) (host : Host) : Prop where
  limits : printer.limits = host.limits
  paint : printer.paint = host.paint
  logPath : printer.logPath = chooseLogPath host.environment none
  logged : ∀ d ∈ printer.logged.toList, host.limits.Shows d

namespace Serves

variable {printer : Printer} {host : Host} {d : Diagnostic}

theorem exists_pieces
    (h : printer.Serves host)
    (hd : host.limits.Shows d) :
    ∃ pieces, printer.pieces d = .ok pieces :=
  Limits.Shows.exists_pieces (h.limits ▸ hd)

theorem counted
    (h : printer.Serves host)
    (d : Diagnostic) :
    (printer.counted d).Serves host :=
  ⟨h.limits, h.paint, h.logPath, h.logged⟩

theorem print
    (h : printer.Serves host)
    (hd : host.limits.Shows d) :
    (printer.print d).1.Serves host := by
  obtain ⟨pieces, hpieces⟩ := h.exists_pieces hd
  rw [Printer.print, hpieces]
  refine ⟨h.limits, h.paint, h.logPath, fun other hother => ?_⟩
  rcases List.mem_append.mp (Array.toList_push ▸ hother) with hother | hother
  · exact h.logged other hother
  · obtain rfl := List.mem_singleton.mp hother
    exact hd

theorem withSource
    (h : printer.Serves host)
    (file : Script)
    (lines : List Text) :
    (printer.withSource file lines).Serves host :=
  ⟨h.limits, h.paint, h.logPath, h.logged⟩

/-- The exchange log of the printer can be written. -/
theorem not_fails_log
    (h : printer.Serves host) :
    ¬ Fails printer.log := by
  rw [log, h.limits]
  exact Limits.not_fails_write (Sarif.writesAll_log h.logged _ _) _

end Serves
end Printer

namespace Run

variable {σ : Type}

theorem ending_finished
    {code : Nat}
    {log : List LogRecord}
    {written : Progress σ × List LogRecord × Option Halt}
    (h : written.2.2 = none) :
    (finished code log written).ending = .ok code := by
  rw [Outcome.ending, finished, h]

variable [FileSystem σ]

section Reading

/-- Every file can be read. -/
def Readable (disk : σ) (files : List Script) : Prop :=
  ∀ path ∈ files, ∃ text, FileSystem.readText disk path = .ok text

/-- Readable files are all analysed. -/
theorem Readable.exists_reports
    {disk : σ}
    {files : List Script}
    (h : Readable disk files)
    (settings : Settings) :
    ∃ reports, files.mapM (FileSystem.report disk settings) = .ok reports := by
  rw [← not_fails_iff, fails_mapM_iff]
  rintro ⟨path, hpath, hfails⟩
  obtain ⟨text, htext⟩ := h path hpath
  rw [FileSystem.report, fails_map_iff, htext] at hfails
  exact not_fails_ok text hfails

/-- The machine can hold the lines of every file that can be read. -/
def Held (limits : Limits) (disk : σ) (files : List Script) : Prop :=
  ∀ path ∈ files, ∀ text, FileSystem.readText disk path = .ok text → limits.Holds text.lines

instance (limits : Limits) (disk : σ) (files : List Script) : Decidable (Held limits disk files) :=
  decidable_of_iff
    (∀ path ∈ files, ∀ text ∈ (FileSystem.readText disk path).toOption, limits.Holds text.lines)
    (by simp only [Option.mem_def, toOption_eq_some_iff, Held])

theorem reports_gather
    (disk : σ)
    (settings : Settings)
    (trace : Trace)
    (paths : List Script) :
    (gather disk settings trace paths).reports = paths.mapM (FileSystem.report disk settings) := by
  induction paths generalizing trace with
  | nil =>
      rfl
  | cons path rest ih =>
      rw [List.mapM_cons, gather]
      cases FileSystem.report disk settings path with
      | error error =>
          rfl
      | ok report =>
          simp only [ih]
          cases rest.mapM (FileSystem.report disk settings) <;> rfl

theorem exists_text_of_mem_reports
    {disk : σ}
    {settings : Settings}
    {files : List Script}
    {reports : List FileReport}
    (h : files.mapM (FileSystem.report disk settings) = .ok reports) :
    ∀ report ∈ reports, ∃ path ∈ files, ∃ text,
      FileSystem.readText disk path = .ok text ∧ report = .ofText settings path text := by
  intro report hreport
  obtain ⟨path, hpath, hread⟩ := exists_item_of_mapM h report hreport
  rw [FileSystem.report] at hread
  cases htext : FileSystem.readText disk path with
  | error error =>
      rw [htext] at hread
      cases hread
  | ok text =>
      rw [htext] at hread
      exact ⟨path, hpath, text, htext, (Except.ok.inj hread).symm⟩

theorem diagnostics_eq_inspect
    (settings : Settings)
    (ids : List String)
    (reports : List FileReport) :
    diagnostics settings ids reports =
      reports.flatMap fun report => ((Inspector.fresh settings ids).inspect report).2 :=
  Inspector.inspectAll_eq_flatMap _ _

/-- The diagnostic is about one of the files, and the machine can show it. -/
structure Reports (limits : Limits) (files : List Script) (d : Diagnostic) : Prop where
  file : d.location.file ∈ files
  shows : limits.Shows d

/-- A machine that holds the lines of the files can show what is found in them. -/
theorem reports_diagnostics
    {limits : Limits}
    {disk : σ}
    {settings : Settings}
    {files : List Script}
    {reports : List FileReport}
    (hheld : Held limits disk files)
    (hreports : files.mapM (FileSystem.report disk settings) = .ok reports)
    (other : Settings)
    (ids : List String) :
    ∀ d ∈ diagnostics other ids reports, Reports limits files d := by
  intro d hd
  rw [diagnostics_eq_inspect] at hd
  obtain ⟨report, hreport, hd⟩ := List.mem_flatMap.mp hd
  obtain ⟨path, hpath, text, htext, rfl⟩ := exists_text_of_mem_reports hreports report hreport
  have hfile : d.location.file = path :=
    Diagnostic.file_of_mem_ofReport (List.mem_of_mem_filter hd)
  obtain ⟨line, hpoints⟩ := Inspector.exists_points hd
  exact ⟨hfile ▸ hpath, text.lines, line, hpoints, hheld path hpath text htext⟩

theorem reports_judge
    {limits : Limits}
    {disk : σ}
    {options : CheckOptions}
    {reports : List FileReport}
    {found : List Diagnostic}
    (hheld : Held limits disk options.job.files)
    (hreports :
      options.job.files.mapM (FileSystem.report disk (jobSettings options.job)) = .ok reports)
    (hfound : judge options reports = .ok found) :
    ∀ d ∈ found, Reports limits options.job.files d := by
  obtain ⟨severity, -, hrest⟩ := bind_eq_ok_iff.mp hfound
  obtain ⟨ids, -, hpure⟩ := bind_eq_ok_iff.mp hrest
  obtain rfl := Except.ok.inj hpure
  exact reports_diagnostics hheld hreports _ ids

end Reading

/-- The halt is due to the output: to the file that it goes to, to a path of a file for output, or to
a text that is not taken. -/
def Halt.byOutput : Halt → Bool
  | .fault _ => true
  | .error .nulInPath => true
  | .error .noHome => true
  | .error (.linkLoop _) => true
  | .error .voidOutput => true
  | .error (.refused _) => true
  | .error .voidSeverity => false
  | .error .voidSuppression => false
  | .error (.render _) => false

theorem byOutput_of_judge
    {options : CheckOptions}
    {reports : List FileReport}
    {error : RunError}
    (h : judge options reports = .error error) :
    (Halt.error error).byOutput = false := by
  have htext {reason : RunError} {value : SwitchValue String}
      (hvalue : textOf reason value = .error error) : error = reason := by
    cases value <;> cases hvalue
    rfl
  rcases bind_eq_error_iff.mp h with hseverity | ⟨severity, -, h⟩
  · obtain rfl := htext hseverity
    rfl
  · rcases bind_eq_error_iff.mp h with hsuppress | ⟨ids, -, ⟨⟩⟩
    obtain ⟨id, -, hid⟩ := exists_item_of_mapM_error hsuppress
    obtain rfl := htext hid
    rfl

section Writing

variable {host : Host} {sink : Sink} {progress : Progress σ} {printer : Printer} {halt : Halt}
  {files : List Script}

theorem byOutput_of_makeFile
    {disk : σ}
    {path : Path}
    (h : (makeFile disk path).2 = .error halt) :
    halt.byOutput = true := by
  rw [makeFile] at h
  split at h
  · cases h
    rfl
  · cases h
    rfl
  · split at h
    · cases h
      rfl
    · split at h
      · cases h
      · cases h
        rfl

theorem byOutput_of_makeSink
    {disk : σ}
    {output : Option (SwitchValue Script)}
    (h : (makeSink host disk output).2 = .error halt) :
    halt.byOutput = true := by
  unfold makeSink at h
  split at h
  · cases h
  · cases h
    rfl
  · dsimp only at h
    split at h
    · cases h
    · split at h
      · cases h
        rfl
      · split at h
        · cases h
          rfl
        · split at h
          · cases h
            rfl
          · exact byOutput_of_makeFile h

theorem makeSink_stdout
    {output : Option (SwitchValue Script)}
    (h : toStdout output = true)
    (host : Host)
    (disk : σ) :
    makeSink host disk output = (disk, .ok .stdout) := by
  simp only [toStdout, Bool.or_eq_true, beq_iff_eq] at h
  rcases h with rfl | rfl <;> rfl

theorem byOutput_of_put
    {piece : Script}
    (h : (put host sink progress piece).2 = some halt) :
    halt.byOutput = true := by
  unfold put at h
  split at h
  · split at h
    · next error _ =>
        obtain rfl := Option.some.inj h
        cases error <;> rfl
    · cases h
  · split at h
    · cases h
      rfl
    · obtain ⟨fault, -, rfl⟩ := Option.map_eq_some_iff.mp h
      rfl

/-- The piece is a text, if the names of the files are texts and the painter makes texts of texts. -/
def Suits (host : Host) (files : List Script) (piece : Script) : Prop :=
  (∀ file ∈ files, file.IsText) → host.paint.KeepsTexts → piece.IsText

/-- The piece can be laid out, and suits the names of the files and the painter. -/
def Ready (host : Host) (files : List Script) (piece : Except RenderError Script) : Prop :=
  ∃ text, piece = .ok text ∧ Suits host files text

/-- The halt is met at a piece that the sink does not take, or at the name of the exchange log. -/
def HaltsAt (σ : Type) [FileSystem σ] (host : Host) (files : List Script) (sink : Sink)
    (halt : Halt) : Prop :=
  (∃ (progress : Progress σ) (piece : Script),
    Suits host files piece ∧ (put host sink progress piece).2 = some halt) ∨
  halt = .error .nulInPath ∧
    ∃ path, Printer.chooseLogPath host.environment none = some path ∧ Path.holdsNul path = true

theorem HaltsAt.byOutput
    (h : HaltsAt σ host files sink halt) :
    halt.byOutput = true := by
  rcases h with ⟨progress, piece, -, hput⟩ | ⟨rfl, -⟩
  · exact byOutput_of_put hput
  · rfl

theorem haltsAt_of_putAll
    {pieces : List (Except RenderError Script)}
    (hpieces : ∀ piece ∈ pieces, Ready host files piece)
    (h : (putAll host sink progress pieces).2 = some halt) :
    HaltsAt σ host files sink halt := by
  induction pieces generalizing progress with
  | nil =>
      cases h
  | cons piece rest ih =>
      obtain ⟨⟨text, rfl, hsuits⟩, hrest⟩ := List.forall_mem_cons.mp hpieces
      rw [putAll] at h
      split at h
      · next other hput =>
          obtain rfl := Option.some.inj h
          exact Or.inl ⟨progress, text, hsuits, congrArg Prod.snd hput⟩
      · exact ih hrest h

/-- Printing meets no halts but those of single pieces, and what it logs can be written. -/
theorem printAll_serves
    {diagnostics : List Diagnostic}
    (hserves : printer.Serves host)
    (hfound : ∀ d ∈ diagnostics, Reports host.limits files d)
    (sink : Sink)
    (progress : Progress σ) :
    (printAll host sink progress printer diagnostics).2.1.Serves host ∧
      ∀ halt, (printAll host sink progress printer diagnostics).2.2 = some halt →
        HaltsAt σ host files sink halt := by
  induction diagnostics generalizing progress printer with
  | nil =>
      exact ⟨hserves, fun _ h => by cases h⟩
  | cons d rest ih =>
      obtain ⟨⟨hfile, hd⟩, hrest⟩ := List.forall_mem_cons.mp hfound
      obtain ⟨pieces, hpieces⟩ := hserves.exists_pieces hd
      have hready : ∀ piece ∈ pieces.map .ok, Ready host files piece :=
        List.forall_mem_map.mpr fun piece hpiece =>
          ⟨piece, rfl, fun hnames hpaint =>
            Printer.isText_of_pieces (hserves.paint ▸ hpaint) (hnames _ hfile) hpieces piece hpiece⟩
      have hnext := hserves.print hd
      have hshown := Printer.print_snd printer d
      rw [printAll]
      cases hprint : printer.print d with
      | mk next shown =>
          rw [hprint] at hnext
          rw [hprint, hpieces] at hshown
          subst hshown
          dsimp only
          split
          · next halt hput =>
              refine ⟨hserves.counted d, fun other hother => ?_⟩
              obtain rfl := Option.some.inj hother
              exact haltsAt_of_putAll hready (congrArg Prod.snd hput)
          · exact ih hnext hrest _

theorem haltsAt_of_writeLog
    (hserves : printer.Serves host)
    (h : (writeLog progress printer).2.2 = some halt) :
    HaltsAt σ host files sink halt := by
  rw [writeLog, hserves.logPath] at h
  split at h
  · cases h
  · next path hpath =>
      split at h
      · next error herror =>
          exact absurd ⟨error, herror⟩ hserves.not_fails_log
      · split at h
        · next hnul =>
            cases h
            exact Or.inr ⟨rfl, path, hpath, hnul⟩
        · split at h <;> cases h

theorem haltsAt_of_finish
    (hserves : printer.Serves host)
    (h : (finish host sink progress printer).2.2 = some halt) :
    HaltsAt σ host files sink halt := by
  have hsummary : Suits host files printer.summary :=
    fun _ hpaint => Printer.isText_summary (hserves.paint ▸ hpaint)
  unfold finish at h
  split at h
  · split at h
    · next other hput =>
        obtain rfl := Option.some.inj h
        exact Or.inl ⟨progress, _, hsummary, congrArg Prod.snd hput⟩
    · exact haltsAt_of_writeLog hserves h
  · rcases Option.or_eq_some_iff.mp h with hput | ⟨-, hlog⟩
    · exact Or.inl ⟨_, _, hsummary, hput⟩
    · exact haltsAt_of_writeLog hserves hlog

theorem haltsAt_of_writeReport
    {diagnostics : List Diagnostic}
    (hserves : printer.Serves host)
    (hfound : ∀ d ∈ diagnostics, Reports host.limits files d)
    (h : (writeReport host sink progress printer diagnostics).2.2 = some halt) :
    HaltsAt σ host files sink halt := by
  obtain ⟨hprinted, hhalt⟩ := printAll_serves hserves hfound sink progress
  rcases Option.or_eq_some_iff.mp h with hfinish | ⟨-, hprint⟩
  · exact haltsAt_of_finish hprinted hfinish
  · exact hhalt halt hprint

theorem Ready.not_fails
    {piece : Except RenderError Script}
    (h : Ready host files piece) :
    ¬ Fails piece := by
  obtain ⟨text, rfl, -⟩ := h
  exact not_fails_ok text

theorem ready_linePiece
    {line : Except NumberError Script}
    (hline : ¬ Fails line)
    (hsuits : ∀ shown, line = .ok shown → Suits host files shown) :
    Ready host files (linePiece line) := by
  obtain ⟨shown, rfl⟩ := not_fails_iff.mp hline
  refine ⟨shown ++ "\n", rfl, fun hnames hpaint => ?_⟩
  exact Script.isText_append_iff.mpr ⟨hsuits shown rfl hnames hpaint, Script.isText_ofString _⟩

theorem ready_documentPiece
    {document : Json}
    (h : host.limits.WritesAll document) :
    Ready host files (documentPiece host.limits document) := by
  refine ready_linePiece ?_ fun shown hshown _ _ => ?_
  · rw [fails_map_iff]
    exact Limits.not_fails_write h _
  · obtain ⟨text, -, rfl⟩ := map_eq_ok_iff.mp hshown
    exact Script.isText_ofString text

theorem ready_of_mem_exportPieces
    {diagnostics : List Diagnostic}
    (hfound : ∀ d ∈ diagnostics, Reports host.limits files d)
    (format : CheckFormat) :
    ∀ piece ∈ exportPieces host.limits format diagnostics, Ready host files piece := by
  cases format with
  | text =>
      simp [exportPieces]
  | gcc =>
      refine List.forall_mem_map.mpr fun d hd => ?_
      obtain ⟨hfile, hshows⟩ := hfound d hd
      refine ready_linePiece hshows.not_fails_editorLine fun shown hshown hnames _ => ?_
      exact Diagnostic.isText_of_editorLine (hnames _ hfile) hshown
  | json =>
      refine List.forall_mem_singleton.mpr (ready_documentPiece ?_)
      rw [Limits.writesAll_arr_iff, List.forall_mem_map]
      exact fun d hd => (hfound d hd).shows.writesAll_toJson
  | sarif =>
      refine List.forall_mem_singleton.mpr (ready_documentPiece ?_)
      exact Sarif.writesAll_log (fun d hd => (hfound d hd).shows) _ _

/-- The printer of a check works for the host, whatever sources it is given. -/
theorem serves_printer
    (host : Host)
    (options : CheckOptions)
    (reports : List FileReport) :
    (Run.printer host options reports).Serves host := by
  have hsources (start : Printer) (hstart : start.Serves host) :
      (reports.foldl (fun p report => p.withSource report.path report.lines) start).Serves host := by
    induction reports generalizing start with
    | nil =>
        exact hstart
    | cons report rest ih =>
        exact ih _ (hstart.withSource report.path report.lines)
  exact hsources _ ⟨rfl, rfl, rfl, fun _ hd => by cases hd⟩

theorem haltsAt_of_writeCheck
    {options : CheckOptions}
    {reports : List FileReport}
    {diagnostics : List Diagnostic}
    (hfound : ∀ d ∈ diagnostics, Reports host.limits files d)
    (h : (writeCheck host sink progress options reports diagnostics).2.2 = some halt) :
    HaltsAt σ host files sink halt := by
  unfold writeCheck at h
  split at h
  · exact haltsAt_of_writeReport (serves_printer host options reports) hfound h
  · exact haltsAt_of_putAll (ready_of_mem_exportPieces hfound _) h

/-- The pieces of a description can be written on a machine that holds the lines of the files. -/
theorem ready_of_mem_captionPieces
    {disk : σ}
    {options : CaptionOptions}
    {reports : List FileReport}
    (hheld : Held host.limits disk options.job.files)
    (hreports :
      options.job.files.mapM (FileSystem.report disk (jobSettings options.job)) = .ok reports) :
    ∀ piece ∈ captionPieces host.limits options reports,
      Ready host options.job.files piece := by
  rw [captionPieces]
  cases options.format with
  | json =>
      refine List.forall_mem_singleton.mpr (ready_documentPiece ?_)
      rw [Limits.writesAll_arr_iff, List.forall_mem_map]
      intro report hreport
      obtain ⟨path, hpath, text, htext, rfl⟩ := exists_text_of_mem_reports hreports report hreport
      exact FileReport.writesAll_toJson (hheld path hpath text htext).number
  | text =>
      intro piece hpiece
      obtain ⟨report, hreport, hpiece⟩ := List.mem_flatMap.mp hpiece
      obtain ⟨routine, hroutine, hpiece⟩ := List.mem_flatMap.mp hpiece
      obtain ⟨path, hpath, text, htext, rfl⟩ := exists_text_of_mem_reports hreports report hreport
      have hstart := FileReport.writes_start (hheld path hpath text htext).number hroutine
      rcases List.mem_cons.mp hpiece with rfl | hpiece
      · refine ready_linePiece ?_ fun shown hshown hnames _ => ?_
        · rw [fails_map_iff, Limits.fails_number_iff, hstart]
          simp
        · obtain ⟨number, -, rfl⟩ := map_eq_ok_iff.mp hshown
          have hname : Script.IsText (FileReport.ofText (jobSettings options.job) path text).path :=
            hnames path hpath
          simp [hname]
      · obtain ⟨line, -, rfl⟩ := List.mem_map.mp hpiece
        refine ready_linePiece (not_fails_ok _) fun shown hshown _ _ => ?_
        obtain rfl := Except.ok.inj hshown
        simp

end Writing

section Endings

/-- The run of a command is not halted by its output, on a machine that holds the lines of the
files. -/
structure Writable (host : Host) (disk : σ) (cmd : Command) : Prop where
  held : Held host.limits disk cmd.job.files
  unhalted : ∀ halt, (command host disk cmd).halt = some halt → halt.byOutput = false

instance (host : Host) (disk : σ) (cmd : Command) : Decidable (Writable host disk cmd) :=
  decidable_of_iff
    (Held host.limits disk cmd.job.files ∧
      ∀ halt ∈ (command host disk cmd).halt, halt.byOutput = false)
    ⟨fun h => ⟨h.1, h.2⟩, fun h => ⟨h.held, h.unhalted⟩⟩

variable {host : Host} {disk : σ} {reports : List FileReport}

/-- The exchange log, if there is to be one, has a name that a file can have. -/
def LogNamed (host : Host) : Prop :=
  ∀ path, Printer.chooseLogPath host.environment none = some path → Path.holdsNul path = false

/-- The output of a job can be opened, and takes every text.  It also takes what is no text, unless
all files have texts for names and the painter makes texts of texts. -/
structure Accepts (host : Host) (disk : σ) (job : Job) : Prop where
  opens : ∃ made sink, makeSink host disk job.output = (made, .ok sink) ∧
    ∀ (progress : Progress σ) (piece : Script), Suits host job.files piece →
      (put host sink progress piece).2 = none
  log : LogNamed host

/-- A standard output that takes everything accepts every job. -/
theorem accepts_stdout
    {job : Job}
    (houtput : toStdout job.output = true)
    (htakes : ∀ before text, host.stdout.failure? before text = none)
    (hlog : LogNamed host) :
    Accepts host disk job := by
  refine ⟨⟨disk, .stdout, makeSink_stdout houtput host disk, fun progress piece _ => ?_⟩, hlog⟩
  rw [put, htakes]

/-- A file that takes all bytes accepts a job whose files have texts for names. -/
theorem accepts_file
    {job : Job}
    {place : Place}
    (hopen : (makeSink host disk job.output).2 = .ok (.file place))
    (hwrites : ∀ (disk : σ) (offset : Nat) (bytes : List UInt8),
      (FileSystem.writeAt disk place offset bytes).2 = none)
    (hnames : ∀ file ∈ job.files, file.IsText)
    (hpaint : host.paint.KeepsTexts)
    (hlog : LogNamed host) :
    Accepts host disk job := by
  refine ⟨⟨_, .file place, Prod.ext rfl hopen, fun progress piece hsuits => ?_⟩, hlog⟩
  rw [put, (hsuits hnames hpaint).refusal?_eq_none]
  simp [hwrites]

/-- A command that has read its files can write them to an output that accepts it. -/
theorem Accepts.writable
    {cmd : Command}
    (haccepts : Accepts host disk cmd.job)
    (hreports : cmd.job.files.mapM (FileSystem.report disk (jobSettings cmd.job)) = .ok reports)
    (hheld : Held host.limits disk cmd.job.files) :
    Writable host disk cmd := by
  obtain ⟨made, sink, hsink, htakes⟩ := haccepts.opens
  have hnever (halt : Halt) : ¬ HaltsAt σ host cmd.job.files sink halt := by
    rintro (⟨progress, piece, hsuits, hput⟩ | ⟨-, path, hpath, hnul⟩)
    · rw [htakes progress piece hsuits] at hput
      cases hput
    · rw [haccepts.log path hpath] at hnul
      cases hnul
  refine ⟨hheld, fun halt hhalt => ?_⟩
  cases cmd with
  | check options =>
      simp only [Command.job] at hreports hheld hsink
      simp only [command, check, reports_gather, hreports, hsink] at hhalt
      cases hjudge : judge options reports with
      | error error =>
          rw [hjudge] at hhalt
          obtain rfl := Option.some.inj hhalt
          exact byOutput_of_judge hjudge
      | ok found =>
          rw [hjudge] at hhalt
          exact absurd (haltsAt_of_writeCheck (reports_judge hheld hreports hjudge) hhalt)
            (hnever halt)
  | annotate options =>
      simp only [Command.job] at hreports hheld hsink
      simp only [command, annotate, reports_gather, hreports, hsink] at hhalt
      exact absurd (haltsAt_of_putAll (ready_of_mem_captionPieces hheld hreports) hhalt)
        (hnever halt)

theorem Writable.not_byOutput
    {cmd : Command}
    {halt : Halt}
    (hwrite : Writable host disk cmd)
    (hhalt : (command host disk cmd).halt = some halt) :
    ¬ halt.byOutput = true := by
  rw [hwrite.unhalted halt hhalt]
  exact Bool.false_ne_true

/-- A check that can write its output opens it and writes all of it. -/
theorem Writable.check_eq
    {options : CheckOptions}
    {found : List Diagnostic}
    (hwrite : Writable host disk (.check options))
    (hreports :
      options.job.files.mapM (FileSystem.report disk (jobSettings options.job)) = .ok reports)
    (hfound : judge options reports = .ok found) :
    ∃ made sink log,
      let written := writeCheck host sink { disk := made } options reports found
      makeSink host disk options.job.output = (made, .ok sink) ∧ written.2.2 = none ∧
        check host disk options = finished (codeOf found.isEmpty) log written := by
  have hcheck (halt : Halt) (h : (check host disk options).halt = some halt) :
      ¬ halt.byOutput = true :=
    hwrite.not_byOutput h
  have hreported := reports_judge hwrite.held hreports hfound
  simp only [check, reports_gather, hreports, hfound] at hcheck ⊢
  cases hsink : makeSink host disk options.job.output with
  | mk made result =>
      rw [hsink] at hcheck
      cases result with
      | error halt =>
          exact absurd (byOutput_of_makeSink (congrArg Prod.snd hsink)) (hcheck halt rfl)
      | ok sink =>
          refine ⟨made, sink, _, rfl, ?_, rfl⟩
          cases hwritten : (writeCheck host sink { disk := made } options reports found).2.2 with
          | none =>
              rfl
          | some halt =>
              exact absurd (haltsAt_of_writeCheck hreported hwritten).byOutput (hcheck halt hwritten)

theorem Writable.ending_check
    {options : CheckOptions}
    {found : List Diagnostic}
    (hwrite : Writable host disk (.check options))
    (hreports :
      options.job.files.mapM (FileSystem.report disk (jobSettings options.job)) = .ok reports)
    (hfound : judge options reports = .ok found) :
    (check host disk options).ending = .ok (codeOf found.isEmpty) := by
  obtain ⟨made, sink, log, -, hwritten, hcheck⟩ := hwrite.check_eq hreports hfound
  rw [hcheck]
  exact ending_finished hwritten

theorem Writable.ending_annotate
    {options : CaptionOptions}
    (hwrite : Writable host disk (.annotate options))
    (hreports :
      options.job.files.mapM (FileSystem.report disk (jobSettings options.job)) = .ok reports) :
    (annotate host disk options).ending = .ok (codeOf (reports.all FileReport.isClean)) := by
  have hannotate (halt : Halt) (h : (annotate host disk options).halt = some halt) :
      ¬ halt.byOutput = true :=
    hwrite.not_byOutput h
  have hpieces := ready_of_mem_captionPieces hwrite.held hreports
  simp only [annotate, reports_gather, hreports] at hannotate ⊢
  cases hsink : makeSink host disk options.job.output with
  | mk made result =>
      rw [hsink] at hannotate
      cases result with
      | error halt =>
          exact absurd (byOutput_of_makeSink (congrArg Prod.snd hsink)) (hannotate halt rfl)
      | ok sink =>
          refine ending_finished ?_
          cases hwritten :
              (putAll host sink { disk := made } (captionPieces host.limits options reports)).2 with
          | none =>
              rfl
          | some halt =>
              exact absurd (haltsAt_of_putAll hpieces hwritten).byOutput (hannotate halt hwritten)

end Endings

end Run
end CalleeSaved
