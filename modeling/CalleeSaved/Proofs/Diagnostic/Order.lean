import CalleeSaved.Diagnostic.Inspector
import CalleeSaved.Proofs.Clobber.Sites
import CalleeSaved.Proofs.Span.Layout

/-!
# The order of diagnostics

Nothing sorts the diagnostics of a file.  Without shared entries they stand in the order of the lines
all the same, each on a line of its own: every routine ends before the next one starts, a routine
reports its lines in order, and a suppression only leaves diagnostics out.

**Lines.**  `map_line_ofReport`: the diagnostics of a file stand on its clobbering lines, counted from
one.

**Results.**
* `clobbers_ordered`: the clobbering lines of a file increase.
* `inspect_ordered`: so do the lines of its diagnostics.
-/

namespace CalleeSaved

/-- Without shared entries the clobbering lines of a file increase. -/
theorem FileReport.clobbers_ordered
    {settings : Settings}
    (hmode : settings.shareEntryLabels = false)
    (path : Script)
    (lines : List Text) :
    (ofLines settings path lines).clobbers.Pairwise fun c d => c.line < d.line := by
  rw [clobbers, List.pairwise_flatMap]
  constructor
  · intro routine hroutine
    obtain ⟨span, -, rfl⟩ := List.mem_map.mp hroutine
    exact Clobber.findAll_ordered _ _ _
  · rw [ofLines, List.pairwise_map]
    refine (Span.findAll_ordered settings lines).imp_of_mem ?_
    intro s t hs ht hstart c hc d hd
    have hapart := Span.stop_lt_of_start_lt hmode hs ht hstart
    obtain ⟨-, hstop⟩ := RoutineReport.inBody_of_mem_clobbers hs hc
    obtain ⟨hafter, -⟩ := RoutineReport.inBody_of_mem_clobbers ht hd
    rw [Span.bodyStart] at hafter
    omega

theorem Diagnostic.map_line_ofReport
    (severity : Severity)
    (file : FileReport) :
    (ofReport severity file).map (fun d => d.location.line) =
      file.clobbers.map fun clobber => clobber.line + 1 := by
  simp only [ofReport, FileReport.clobbers, List.map_flatMap, List.map_map]
  rfl

namespace Inspector

/-- **Order of diagnostics.**  Without shared entries, the lines of the diagnostics of a source text
increase, whatever the severity, the marker and the identifiers that the inspector suppresses, and
whatever files it has seen.  So no line is reported twice. -/
theorem inspect_ordered
    (inspector : Inspector)
    (settings : Settings)
    (path : Script)
    (text : Text)
    (hmode : settings.shareEntryLabels = false) :
    (inspector.inspect (FileReport.ofText settings path text)).2.Pairwise
      fun d e => d.location.line < e.location.line := by
  have hclobbers := FileReport.clobbers_ordered hmode path text.lines
  have hlines :
      ((Diagnostic.ofReport inspector.severity (FileReport.ofText settings path text)).map
        fun d => d.location.line).Pairwise (· < ·) := by
    rw [Diagnostic.map_line_ofReport, List.pairwise_map]
    exact hclobbers.imp fun hlt => Int.add_lt_add_right hlt 1
  exact (List.pairwise_map.mp hlines).filter _

/-- A label is repeated, and a suppression leaves out the first of two lines of the second routine. -/
theorem inspect_ordered_repeated_label :
    let text :=
      "A:\n clr.l d2\n rts\nA:\n clr.l d3 ; regtrack-suppress\n movem.l (sp)+,d4-d5".toList
    let found := ((new {}).inspect (FileReport.ofText {} "input" text)).2
    found.map (fun d => d.location.line) = [2, 6] ∧
      found.Pairwise fun d e => d.location.line < e.location.line := by
  intro text found
  exact ⟨by decide, inspect_ordered (new {}) {} "input" text rfl⟩

end Inspector
end CalleeSaved
