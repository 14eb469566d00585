import CalleeSaved.Disk.System
import CalleeSaved.Report.Printer

/-!
# Hosts

What a run finds around it, apart from the files: the variables of its environment, the limits of
the machine, the painter of its terminal, the home directories of the users, and standard output.
All of it is a parameter of a run.

**Streams.**  What a stream takes may depend on what it has taken before.  It can refuse a text that
its encoding has no form for, and it can fail.
-/

namespace CalleeSaved

/-- Why a text cannot be written: the encoding refuses it, or the system fails. -/
inductive WriteError
  | refused (message : String)
  | fault (fault : Fault)
  deriving DecidableEq, Repr

/-- A stream for output. -/
structure Stream where
  /-- The stream ends at a terminal. -/
  isTerminal : Bool
  /-- Why a text cannot be written behind what was written before it. -/
  failure? : Script → Script → Option WriteError

/-- What a run finds around it, apart from the files. -/
structure Host where
  environment : Environment
  limits : Limits
  paint : Painter
  stdout : Stream
  /-- The home directory of a user; the empty name stands for the user of the run. -/
  homeDirectory? : Script → Option Script

namespace Host

/-- The variable that names the home directory of the user of the run. -/
def homeVariable : String := "HOME"

/-- The home directory of a user: for the user of the run, what the environment says comes first. -/
def home? (host : Host) (user : Script) : Option Script :=
  if user.isEmpty then (host.environment.lookup homeVariable).or (host.homeDirectory? user)
  else host.homeDirectory? user

/-- The path with a home directory in place of a tilde; none if there is no such directory. -/
def expand? (host : Host) (path : Path) : Option Path :=
  match path.homeOf? with
  | none => some path
  | some user => (host.home? user).bind path.inHome?

end Host
end CalleeSaved
