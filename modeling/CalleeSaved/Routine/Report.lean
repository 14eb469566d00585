import CalleeSaved.Json
import CalleeSaved.Routine.Clobber
import CalleeSaved.Routine.Span
import CalleeSaved.Routine.Verdict
import CalleeSaved.Text.Lines

/-!
# Reports

**Routine.**  The span of a routine, the verdict on its body, and the lines that clobber a
register, numbered as in the file.

**File.**  The routines of a file in the order of their labels.
-/

namespace CalleeSaved

/-- The analysis of one routine. -/
structure RoutineReport where
  span : Span
  verdict : Verdict
  clobbers : List Clobber

namespace RoutineReport

/-- The analysis of a span of a file. -/
def ofSpan (lines : List Text) (span : Span) : RoutineReport :=
  let body := span.body lines
  let verdict := Verdict.ofBody body
  ⟨span, verdict, Clobber.findAll verdict.usage span.bodyStart body⟩

theorem clobbers_ofSpan (lines : List Text) (span : Span) :
    (ofSpan lines span).clobbers =
      Clobber.findAll (Usage.ofLines (span.body lines)) span.bodyStart (span.body lines) := by
  simp only [ofSpan, Verdict.usage_ofBody]

/-- The analysis of one routine as a document. -/
def toJson (report : RoutineReport) : Json :=
  .obj [
    ("label", .str report.span.label),
    ("start_line", .num report.span.start),
    ("end_line", .num report.span.stop),
    ("registers", .obj (report.verdict.table.map fun entry => (entry.1, .str entry.2.name))),
    ("unsafe_sites", .arr (report.clobbers.map fun clobber =>
      .obj [
        ("line", .num clobber.line),
        ("register", .str clobber.register.name),
        ("family", .str clobber.register.family.label)]))]

end RoutineReport

/-- The analysis of a file. -/
structure FileReport where
  path : Script
  lines : List Text
  routines : List RoutineReport

namespace FileReport

/-- The analysis of the lines of a file. -/
def ofLines (settings : Settings) (path : Script) (lines : List Text) : FileReport :=
  ⟨path, lines, (Span.findAll settings lines).map (RoutineReport.ofSpan lines)⟩

/-- The analysis of a source text. -/
def ofText (settings : Settings) (path : Script) (text : Text) : FileReport :=
  ofLines settings path text.lines

/-- The clobbers of all routines, in order. -/
def clobbers (report : FileReport) : List Clobber :=
  report.routines.flatMap RoutineReport.clobbers

/-- No routine has an unsafe register. -/
def isClean (report : FileReport) : Bool :=
  report.routines.all fun routine => routine.verdict.isClean

/-- The analysis of a file as a document. -/
def toJson (report : FileReport) : Json :=
  .obj [
    ("file", .str report.path),
    ("subroutines", .arr (report.routines.map RoutineReport.toJson))]

end FileReport
end CalleeSaved
