import CalleeSaved.CommandLine.Switch
import CalleeSaved.Report.Printer

/-!
# Commands

The tool has two commands: one checks source files and one describes their routines.

**Reading.**  The words before the command are read with the general switches, the words after it
with the switches of the command.  The files are the first plain words after the command that stand
together.

**Answers.**  A command line asks for a text to be shown, or for a command to be run, or is
misused.  Words that nothing takes are reported last.
-/

namespace CalleeSaved

/-- The formats of a check. -/
inductive CheckFormat
  | text
  | gcc
  | json
  | sarif
  deriving DecidableEq, Repr

namespace CheckFormat

/-- Every format of a check. -/
def all : List CheckFormat :=
  [text, gcc, json, sarif]

/-- The name of a format. -/
def name : CheckFormat → String
  | text => "text"
  | gcc => "gcc"
  | json => "json"
  | sarif => "sarif"

end CheckFormat

/-- The formats of a description. -/
inductive CaptionFormat
  | text
  | json
  deriving DecidableEq, Repr

namespace CaptionFormat

/-- Every format of a description. -/
def all : List CaptionFormat :=
  [text, json]

/-- The name of a format. -/
def name : CaptionFormat → String
  | text => "text"
  | json => "json"

end CaptionFormat

/-- What both commands work on. -/
structure Job where
  files : List Script
  /-- The file for the output; standard output without one or for a dash. -/
  output : Option (SwitchValue Script) := none
  shareEntryLabels : Bool := false
  deriving DecidableEq, Repr

/-- The choices of a check. -/
structure CheckOptions where
  job : Job
  format : CheckFormat := .text
  severity : SwitchValue String := .text "warning"
  suppress : List (SwitchValue String) := []
  colour : Option Bool := none
  deriving DecidableEq, Repr

/-- The choices of a description. -/
structure CaptionOptions where
  job : Job
  format : CaptionFormat := .text
  emoji : Bool := true
  deriving DecidableEq, Repr

/-- A command to be run. -/
inductive Command
  | check (options : CheckOptions)
  | annotate (options : CaptionOptions)
  deriving DecidableEq, Repr

/-- What a command works on. -/
def Command.job : Command → Job
  | check options => options.job
  | annotate options => options.job

/-- The lines of a text, each with a line feed at its end. -/
def paragraph (lines : List String) : String :=
  String.join (lines.map (· ++ "\n"))

/-- A set of switches with the texts that describe it. -/
structure Manual where
  program : String
  usage : String
  details : String
  switches : List Switch

/-- The whole help text. -/
def Manual.help (manual : Manual) : String :=
  manual.usage ++ "\n" ++ manual.details

/-- The text that reports a misuse. -/
def Manual.complaint (manual : Manual) (error : UsageError) : String :=
  manual.usage ++ manual.program ++ ": error: " ++ error.message ++ "\n"

namespace Manual

/-- The switch that asks for help. -/
def helpSwitch : Switch :=
  ⟨.help, ["-h", "--help"], false, none⟩

/-- The switches of both commands. -/
def jobSwitches : List Switch :=
  [helpSwitch, ⟨.output, ["-o", "--output"], true, none⟩,
    ⟨.shareEntryLabels, ["--share-entry-labels"], false, none⟩]

/-- The names of the commands. -/
def commandNames : List String :=
  ["check", "annotate"]

/-- The choice of a command, as messages show it. -/
def commandArgument : String :=
  "\x7b" ++ ",".intercalate commandNames ++ "\x7d"

/-- The manual of the tool. -/
def general : Manual where
  program := toolName
  usage := "usage: m68k-regtrack [-h] [--version] [-v] \x7bcheck,annotate\x7d ...\n"
  details := paragraph [
    "Track 68000 register preservation across subroutines.",
    "",
    "options:",
    "  -h, --help        show this help message and exit",
    "  --version         show program's version number and exit",
    "  -v, --verbose     Increase log verbosity (-v INFO, -vv DEBUG).",
    "",
    "commands:",
    "  \x7bcheck,annotate\x7d",
    "    check           Report preserved registers modified without a save.",
    "    annotate        Show the register status of every subroutine."]
  switches :=
    [helpSwitch, ⟨.version, ["--version"], false, none⟩,
      ⟨.verbose, ["-v", "--verbose"], false, none⟩]

/-- The manual of the check. -/
def check : Manual where
  program := toolName ++ " check"
  usage := paragraph [
    "usage: m68k-regtrack check [-h] [-o FILE] [--share-entry-labels]",
    "                           [-f \x7btext,gcc,json,sarif\x7d]",
    "                           [--severity \x7berror,warning,style,information\x7d]",
    "                           [--suppress ID] [--color | --no-color]",
    "                           FILE [FILE ...]"]
  details := paragraph [
    "positional arguments:",
    "  FILE                  68000 assembly source file(s).",
    "",
    "options:",
    "  -h, --help            show this help message and exit",
    "  -o FILE, --output FILE",
    "                        Output file (\"-\" or omit for stdout).",
    "  --share-entry-labels  Credit every label before a shared return as its own",
    "                        subroutine.",
    "  -f \x7btext,gcc,json,sarif\x7d, --format \x7btext,gcc,json,sarif\x7d",
    "                        Diagnostic format (default: text).",
    "  --severity \x7berror,warning,style,information\x7d",
    "                        Severity of unsafe-register diagnostics (default:",
    "                        warning).",
    "  --suppress ID         Suppress an error id everywhere (repeatable).",
    "  --color               Force coloured output.",
    "  --no-color            Disable coloured output."]
  switches := jobSwitches ++
    [⟨.format, ["-f", "--format"], true, some (CheckFormat.all.map CheckFormat.name)⟩,
      ⟨.severity, ["--severity"], true, some Settings.severityNames⟩,
      ⟨.suppress, ["--suppress"], true, none⟩,
      ⟨.colour, ["--color"], false, none⟩,
      ⟨.noColour, ["--no-color"], false, none⟩]

/-- The manual of the description. -/
def annotate : Manual where
  program := toolName ++ " annotate"
  usage := paragraph [
    "usage: m68k-regtrack annotate [-h] [-o FILE] [--share-entry-labels]",
    "                              [-f \x7btext,json\x7d] [--no-emoji]",
    "                              FILE [FILE ...]"]
  details := paragraph [
    "positional arguments:",
    "  FILE                  68000 assembly source file(s).",
    "",
    "options:",
    "  -h, --help            show this help message and exit",
    "  -o FILE, --output FILE",
    "                        Output file (\"-\" or omit for stdout).",
    "  --share-entry-labels  Credit every label before a shared return as its own",
    "                        subroutine.",
    "  -f \x7btext,json\x7d, --format \x7btext,json\x7d",
    "                        Output format (default: text).",
    "  --no-emoji            Plain-text status labels."]
  switches := jobSwitches ++
    [⟨.format, ["-f", "--format"], true, some (CaptionFormat.all.map CaptionFormat.name)⟩,
      ⟨.noEmoji, ["--no-emoji"], false, none⟩]

end Manual

/-- What has been read of the words after a command. -/
structure Reading where
  occurrences : Occurrences := []
  /-- The files, once they have been found. -/
  files : Option (List String) := none
  /-- The plain words that stand together at this point. -/
  run : List String := []
  /-- The words that nothing takes. -/
  unrecognized : List String := []

namespace Reading

/-- The reading after the end of a run of plain words.  The first run with more in it than two
dashes is the files. -/
def closeRun (reading : Reading) : Reading :=
  let words := reading.run.erase "--"
  if reading.files.isNone && !words.isEmpty then { reading with files := some words, run := [] }
  else { reading with unrecognized := reading.unrecognized ++ reading.run, run := [] }

/-- The reading with a word that nothing takes. -/
def reject (reading : Reading) (word : String) : Reading :=
  { reading with unrecognized := reading.unrecognized ++ [word] }

/-- The reading with switches that take effect. -/
def take (reading : Reading) (settled : List (Switch × Option Text)) : Except Stop Reading := do
  return { reading with occurrences := ← reading.occurrences.takeAll settled }

/-- The reading of words, given what was read before them. -/
def scan (switches : List Switch) (reading : Reading) : List (String × Word) → Except Stop Reading
  | [] => .ok reading.closeRun
  | (word, .plain) :: rest => scan switches { reading with run := reading.run ++ [word] } rest
  | (word, .unknown) :: rest => scan switches (reading.closeRun.reject word) rest
  | (_, .switch switch name attached) :: rest =>
      let closed := reading.closeRun
      match SwitchGroup.ofWord switches switch name attached with
      | .error error => .error (.misuse error)
      | .ok group =>
          match group.waiting with
          | none => do scan switches (← closed.take group.settled) rest
          | some waiting =>
              match rest with
              | (value, .plain) :: rest =>
                  if value == "--" then .error (.misuse (.missingValue waiting))
                  else do
                    let taken ← closed.take (group.settled ++ [(waiting, some value.toList)])
                    scan switches taken rest
              | _ => .error (.misuse (.missingValue waiting))

/-- The reading of the words after a command. -/
def ofWords (switches : List Switch) (words : List String) : Except Stop Reading :=
  match Word.classifyAll switches words with
  | .error error => .error (.misuse error)
  | .ok kinds => scan switches {} kinds

end Reading

/-- What a command line asks for. -/
inductive Request
  | display (text : String)
  | misuse (text : String)
  | nothing (verbosity : Nat)
  | run (verbosity : Nat) (command : Command)
  deriving DecidableEq, Repr

namespace Request

/-- The format with the chosen name: the standard one without a choice, and the last resort for a
choice that names none. -/
def chosen {α : Type} (all : List α) (name : α → String) (standard lastResort : α) :
    Option (SwitchValue String) → α
  | none => standard
  | some choice => (all.find? fun format => choice == .text (name format)).getD lastResort

/-- The files and switches that both commands share. -/
def jobOf (occurrences : Occurrences) (files : List String) : Job :=
  ⟨files.map Script.ofString, (occurrences.last? .output).map (SwitchValue.map Script.ofString),
    occurrences.has .shareEntryLabels⟩

/-- The check that switches and files describe. -/
def checkOf (occurrences : Occurrences) (files : List String) : Command :=
  .check {
    job := jobOf occurrences files
    format := chosen CheckFormat.all CheckFormat.name .text .sarif (occurrences.last? .format)
    severity := (occurrences.last? .severity).getD (.text "warning")
    suppress := occurrences.values .suppress
    colour :=
      if occurrences.has .colour then some true
      else if occurrences.has .noColour then some false
      else none }

/-- The description that switches and files describe. -/
def annotateOf (occurrences : Occurrences) (files : List String) : Command :=
  .annotate {
    job := jobOf occurrences files
    format := chosen CaptionFormat.all CaptionFormat.name .text .text (occurrences.last? .format)
    emoji := !occurrences.has .noEmoji }

/-- The answer to a stop. -/
def ofStop (manual : Manual) : Stop → Request
  | .help => display manual.help
  | .version => display (toolName ++ " " ++ toolVersion ++ "\n")
  | .misuse error => misuse (manual.complaint error)

/-- The request of a command with the words after it, when some words before it were not
recognized. -/
def ofCommand (manual : Manual) (build : Occurrences → List String → Command) (verbosity : Nat)
    (unrecognized : List String) (words : List String) : Request :=
  match Reading.ofWords manual.switches words with
  | .error stop => ofStop manual stop
  | .ok reading =>
      match reading.files with
      | none => ofStop manual (.misuse (.missingArguments "FILE"))
      | some files =>
          match unrecognized ++ reading.unrecognized with
          | [] => run verbosity (build reading.occurrences files)
          | words => ofStop .general (.misuse (.unrecognized words))

/-- The request of a command name with the words after it. -/
def ofName (verbosity : Nat) (unrecognized : List String) (name : String)
    (words : List String) : Request :=
  if name == "check" then ofCommand .check checkOf verbosity unrecognized words
  else if name == "annotate" then ofCommand .annotate annotateOf verbosity unrecognized words
  else ofStop .general (.misuse (.invalidChoice Manual.commandArgument name Manual.commandNames))

/-- The request of words that start before the command. -/
def scan (occurrences : Occurrences) (unrecognized : List String) : List (String × Word) → Request
  | [] =>
      match unrecognized with
      | [] => nothing (occurrences.count .verbose)
      | words => ofStop .general (.misuse (.unrecognized words))
  | (word, .unknown) :: rest => scan occurrences (unrecognized ++ [word]) rest
  | (word, .plain) :: rest =>
      if word == "--" && rest.isEmpty then scan occurrences (unrecognized ++ [word]) rest
      else ofName (occurrences.count .verbose) unrecognized word (rest.map Prod.fst)
  | (_, .switch switch name attached) :: rest =>
      match SwitchGroup.ofWord Manual.general.switches switch name attached with
      | .error error => ofStop .general (.misuse error)
      | .ok group =>
          match occurrences.takeAll group.settled with
          | .error stop => ofStop .general stop
          | .ok taken => scan taken unrecognized rest

/-- The request of a command line. -/
def ofWords (words : List String) : Request :=
  match Word.classifyAll Manual.general.switches words with
  | .error error => ofStop .general (.misuse error)
  | .ok kinds => scan [] [] kinds

end Request
end CalleeSaved
