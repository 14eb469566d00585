import CalleeSaved.Text.Basic
import CalleeSaved.Text.Quoted

/-!
# Settings

The choices that a user of the analysis can make, and what is wrong with a choice.
-/

namespace CalleeSaved

/-- The choices of an analysis. -/
structure Settings where
  /-- Labels before one return are all entry points of routines that share it. -/
  shareEntryLabels : Bool := false
  /-- The name of the severity of clobber diagnostics. -/
  severity : String := "warning"
  /-- The word that starts a suppression in a comment. -/
  marker : Text := "regtrack-suppress".toList
  deriving DecidableEq

namespace Settings

/-- The names of severities. -/
def severityNames : List String :=
  ["error", "warning", "style", "information"]

/-- What is wrong with a severity, as messages show it, that is none. -/
def severityProblem (shown : String) : String :=
  "unsafe_severity must be one of " ++ ", ".intercalate severityNames ++ "; got " ++ shown

/-- What is wrong with the settings. -/
def problems (settings : Settings) : List String :=
  (if severityNames.contains settings.severity then []
    else [severityProblem (Text.quoted settings.severity.toList)]) ++
  (if settings.marker.allBlank then ["suppress_marker must not be empty"] else [])

end Settings
end CalleeSaved
