import CalleeSaved.Disk.System
import CalleeSaved.Routine.Report
import CalleeSaved.Text.Utf8

/-!
# Source files

A source file is decoded as UTF-8, a byte order mark dropped, and its line ends brought to line
feeds.  Bytes that are no text do not stop the reading; a path that leads to no file does.
-/

namespace CalleeSaved

/-- Why a source file cannot be read. -/
inductive SourceError
  | nulInPath
  | unreadable (path : Path) (fault : Fault)
  deriving DecidableEq, Repr

namespace SourceError

/-- The reason in a message about a source file.  A fault without a wording is shown in full. -/
def reason (path : Path) (fault : Fault) : String :=
  if fault.number = Fault.noEntry.number then "no such file"
  else if fault.number = Fault.isDirectory.number then "is a directory"
  else if fault.text.isEmpty then DiskError.message ⟨fault, some path.toScript⟩
  else fault.text

/-- The wording of a source error. -/
def message : SourceError → String
  | nulInPath => "embedded null byte"
  | unreadable path fault => path.toScript.escaped ++ ": " ++ reason path fault

end SourceError

/-- The text of the bytes of a source file. -/
def sourceText (bytes : List UInt8) : Text :=
  Text.normalizeNewlines (Utf8.decodeFile bytes)

namespace FileSystem

variable {σ : Type} [FileSystem σ]

/-- The text of a source file. -/
def readText (disk : σ) (path : Script) : Except SourceError Text :=
  if Path.holdsNul path then .error .nulInPath
  else
    match read disk (Path.ofScript path) with
    | .ok bytes => .ok (sourceText bytes)
    | .error fault => .error (.unreadable (Path.ofScript path) fault)

/-- The analysis of a source file. -/
def report (disk : σ) (settings : Settings) (path : Script) : Except SourceError FileReport :=
  (readText disk path).map (FileReport.ofText settings path)

end FileSystem
end CalleeSaved
