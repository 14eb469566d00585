import CalleeSaved.CommandLine.Run
import CalleeSaved.Disk.Basic
import Std.Time.DateTime.Timestamp

/-!
# The program

The outer layer looks at the host and takes a snapshot of the places that the command line names.
It runs the command on the snapshot, and brings the changes back to the disk.

**Painting.**  Painted text is enclosed in escape sequences that select a weight and a colour and go
back to normal.  Two variables forbid it, a third demands it, and without any of them text is painted
on a terminal that is not dumb.
-/

namespace CalleeSaved
namespace Program

/-- The number that selects a colour in an escape sequence. -/
def colourCode : Colour → Nat
  | .red => 31
  | .green => 32
  | .yellow => 33
  | .blue => 34
  | .cyan => 36
  | .white => 97

/-- The number that selects a weight in an escape sequence. -/
def weightCode : Weight → Nat
  | .bold => 1
  | .dark => 2

/-- The escape sequence with a number. -/
def escape (code : Nat) : Script :=
  "\x1b[" ++ toString code ++ "m"

/-- The painter of a terminal. -/
def painted : Painter := fun weight colour text =>
  escape (weightCode weight) ++ (colour.elim [] fun colour => escape (colourCode colour)) ++ text ++
    escape 0

/-- The painter that leaves text as it is. -/
def unpainted : Painter := fun _ _ text => text

/-- Text is painted in this environment. -/
def paints (environment : Environment) (isTerminal : Bool) : Bool :=
  let isSet (name : String) := (environment.value? name).isSome
  if isSet "ANSI_COLORS_DISABLED" || isSet "NO_COLOR" then false
  else isSet "FORCE_COLOR" || (isTerminal && environment.value? "TERM" != some "dumb")

/-- The variables that a run looks at. -/
def observed : List String :=
  ["FORCE_COLOR", "NO_COLOR", "ANSI_COLORS_DISABLED", "TERM", Host.homeVariable,
    Printer.logVariable]

/-- The limits that the program keeps to. -/
def limits : Limits :=
  ⟨0x7FFFFFFFFFFFFFFF, 0x7FFFFFFFFFFFFFFF, some 4300⟩

/-- The home directories in the lines of a user table, by user. -/
def homeDirectories (lines : List String) : List (Script × Script) :=
  lines.filterMap fun line =>
    match line.splitOn ":" with
    | name :: _ :: _ :: _ :: _ :: home :: _ => some (name, home)
    | _ => none

/-- The host of the program.  Standard output is encoded as UTF-8. -/
def host : IO Host := do
  let environment ← observed.filterMapM fun name =>
    return (← IO.getEnv name).map fun value => (name, Script.ofString value)
  let isTerminal ← (← IO.getStdout).isTty
  let users ← try IO.FS.lines "/etc/passwd" catch _ => pure #[]
  return {
    environment
    limits
    paint := if paints environment isTerminal then painted else unpainted
    stdout := ⟨isTerminal, fun _ text => text.refusal?.map .refused⟩
    homeDirectory? := fun user => (homeDirectories users.toList).lookup user }

/-- The paths that a job reads or writes. -/
def jobPaths (host : Host) (job : Job) : List Path :=
  let output := (job.output.bind SwitchValue.text?).map Path.ofScript
  job.files.map Path.ofScript ++ (output.bind host.expand?).toList

/-- The paths that a request reads or writes. -/
def pathsOf (host : Host) : Request → List Path
  | .run _ cmd =>
      jobPaths host cmd.job ++
        ((Printer.chooseLogPath host.environment none).map Path.ofScript).toList
  | _ => []

/-- The places that a path passes, as they are met. -/
def placesOf (here : Place) : List Script → List Place
  | [] => [here]
  | name :: rest => here :: placesOf (if name == ".." then here.dropLast else here ++ [name]) rest

/-- The fault of a failed operation. -/
def faultOf : IO.Error → Fault
  | .permissionDenied _ code text => ⟨code.toNat, text⟩
  | .resourceExhausted _ code text => ⟨code.toNat, text⟩
  | .invalidArgument _ code text => ⟨code.toNat, text⟩
  | .inappropriateType _ code text => ⟨code.toNat, text⟩
  | .noSuchThing _ code text => ⟨code.toNat, text⟩
  | .hardwareFault code text => ⟨code.toNat, text⟩
  | .resourceBusy code text => ⟨code.toNat, text⟩
  | .otherError code text => ⟨code.toNat, text⟩
  | error => ⟨5, toString error⟩

/-- What the real disk holds at a place. -/
def probe (place : Place) : IO (Option Node) := do
  try
    if ← (← IO.FS.realPath place.name.escaped).isDir then
      return some .directory
    return some (.file (← IO.FS.readBinFile place.name.escaped).toList)
  catch
    | .noFileOrDirectory _ _ _ => return none
    | error => return some (.barred (faultOf error))

/-- A snapshot of the places that paths pass. -/
def snapshot (workingDirectory : Place) (paths : List Path) : IO Disk := do
  let places := paths.flatMap fun path =>
    placesOf (if path.isAbsolute then [] else workingDirectory) path.names
  let nodes ← places.eraseDups.filterMapM fun place =>
    return (← probe place).map fun node => (place, node)
  return ⟨workingDirectory, nodes⟩

/-- Bring the changes of a run back to the real disk. -/
def commit (before after : Disk) : IO Unit := do
  let changed := after.nodes.reverse.filter fun entry => before.node? entry.1 != some entry.2
  for (place, node) in changed do
    if node == .directory then
      IO.FS.createDirAll place.name.escaped
  for (place, node) in changed do
    if let .file bytes := node then
      IO.FS.writeBinFile place.name.escaped ⟨bytes.toArray⟩

/-- Two digits of a number. -/
def twoDigits (n : Nat) : String :=
  String.ofList [Nat.digitChar (n / 10 % 10), Nat.digitChar (n % 10)]

/-- The time of day of a number of seconds. -/
def clock (seconds : Nat) : String :=
  twoDigits (seconds / 3600 % 24) ++ ":" ++ twoDigits (seconds / 60 % 60) ++ ":" ++
    twoDigits (seconds % 60)

end Program
end CalleeSaved

open CalleeSaved in
/-- Run the command line. -/
def main (arguments : List String) : IO UInt32 := do
  let host ← Program.host
  let workingDirectory := (Path.ofScript (← IO.currentDir).toString).names
  let before ← Program.snapshot workingDirectory (Program.pathsOf host (Request.ofWords arguments))
  let time := Program.clock (← Std.Time.Timestamp.now).toSecondsSinceUnixEpoch.val.toNat
  let outcome := Run.ofWords host before arguments
  Program.commit before outcome.disk
  (← IO.getStdout).write ⟨outcome.stdout.bytes.toArray⟩
  (← IO.getStderr).putStr (outcome.stderr time)
  match outcome.ending with
  | .ok code => return code.toUInt32
  | .error error =>
      (← IO.getStderr).putStrLn error.message
      return 1
