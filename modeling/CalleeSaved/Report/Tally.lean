import CalleeSaved.Diagnostic.Severity

/-!
# Tallies

How many diagnostics of each severity were emitted, and the line that sums them up.
-/

namespace CalleeSaved

/-- The number of diagnostics of each severity. -/
structure Tally where
  errors : Nat := 0
  warnings : Nat := 0
  styles : Nat := 0
  informations : Nat := 0
  deriving DecidableEq, Repr

namespace Tally

/-- The number of diagnostics of a severity. -/
def count (tally : Tally) : Severity → Nat
  | .error => tally.errors
  | .warning => tally.warnings
  | .style => tally.styles
  | .information => tally.informations

/-- The tally with a further diagnostic. -/
def record (tally : Tally) : Severity → Tally
  | .error => { tally with errors := tally.errors + 1 }
  | .warning => { tally with warnings := tally.warnings + 1 }
  | .style => { tally with styles := tally.styles + 1 }
  | .information => { tally with informations := tally.informations + 1 }

/-- The number of diagnostics. -/
def total (tally : Tally) : Nat :=
  tally.errors + tally.warnings + tally.styles + tally.informations

/-- The word for a number of diagnostics of a severity. -/
def word (severity : Severity) (n : Nat) : String :=
  match severity with
  | .error => if n = 1 then "error" else "errors"
  | .warning => if n = 1 then "warning" else "warnings"
  | .style => "style"
  | .information => "info"

/-- The part of the summary for a severity that occurs. -/
def part? (tally : Tally) (severity : Severity) : Option String :=
  match tally.count severity with
  | 0 => none
  | n => some (toString n ++ " " ++ word severity n)

/-- The line that sums up the tally. -/
def summary (tally : Tally) : String :=
  if tally.total = 0 then "no diagnostics emitted"
  else
    "; ".intercalate (Severity.all.filterMap tally.part?) ++ " (" ++ toString tally.total ++
      " total)"

end Tally
end CalleeSaved
