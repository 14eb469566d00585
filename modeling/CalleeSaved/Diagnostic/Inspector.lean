import CalleeSaved.Diagnostic.Suppression

/-!
# The inspector

An inspector reports the clobbers of a file that are not suppressed.  It keeps the suppression
comments of the files that it has seen, which a second look at a file replaces.
-/

namespace CalleeSaved

/-- An inspector with its settings and the suppressions in force. -/
structure Inspector where
  settings : Settings
  suppressions : Suppressions

namespace Inspector

/-- The identifiers that an inspector reports. -/
def knownIds : List String :=
  [Diagnostic.clobberId]

/-- A new inspector. -/
def new (settings : Settings) : Inspector :=
  ⟨settings, { marker := settings.marker, known := some knownIds }⟩

/-- The inspector with an identifier suppressed in every file. -/
def suppress (inspector : Inspector) (id : String) : Inspector :=
  { inspector with suppressions := inspector.suppressions.addEverywhere id }

/-- The severity of the diagnostics. -/
def severity (inspector : Inspector) : Severity :=
  Severity.ofString inspector.settings.severity

/-- The inspector after a look at a file, and the diagnostics of the file. -/
def inspect (inspector : Inspector) (file : FileReport) : Inspector × List Diagnostic :=
  let suppressions := inspector.suppressions.load file.path file.lines
  ({ inspector with suppressions }, suppressions.keep (Diagnostic.ofReport inspector.severity file))

/-- The inspector after a look at several files, and all their diagnostics in order. -/
def inspectAll (inspector : Inspector) : List FileReport → Inspector × List Diagnostic
  | [] => (inspector, [])
  | file :: rest =>
      let (inspector, found) := inspector.inspect file
      let (inspector, later) := inspector.inspectAll rest
      (inspector, found ++ later)

end Inspector
end CalleeSaved
