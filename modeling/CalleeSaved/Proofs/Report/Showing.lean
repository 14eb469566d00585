import CalleeSaved.Proofs.Diagnostic.Placement
import CalleeSaved.Proofs.Report.Rendering

/-!
# Diagnostics of a file can be shown

The numbers and the ranges of the diagnostics of a file come from the file.  A machine that can hold
the lines of the file can therefore show its diagnostics in every layout and format.

**Machines.**  `Limits.Fits` is a line that a machine can hold, with the numbers of its columns.
`Limits.Holds` are lines that it can hold, with their number.

**Diagnostics.**  `Diagnostic.Points` is a diagnostic that points into one of some lines.
`Inspector.exists_points`: the diagnostics of a file do.

**Layouts.**  `Points.print_cases`: what can stop a layout then.

**Showing.**  `Limits.Shows` is a diagnostic that points into lines that the machine holds.  It can be
shown in every layout (`Shows.exists_pieces`) and written in every format for other programs
(`Shows.not_fails_editorLine`, `Shows.writesAll_toJson`, `Sarif.writesAll_log`).  The same goes for
the analysis of a file (`FileReport.writesAll_toJson`).
-/

namespace CalleeSaved

open Partial Text

namespace Limits

/-- The machine can write all numbers of a document. -/
def WritesAll (limits : Limits) (document : Json) : Prop :=
  ∀ n ∈ document.numbers, limits.writes n = true

section Documents

variable {limits : Limits}

@[simp] theorem writesAll_num_iff
    {n : Int} :
    limits.WritesAll (.num n) ↔ limits.writes n = true := by
  simp [WritesAll, Json.numbers]

@[simp] theorem writesAll_str
    (s : Script) :
    limits.WritesAll (.str s) := by
  simp [WritesAll, Json.numbers]

@[simp] theorem writesAll_arr_iff
    {items : List Json} :
    limits.WritesAll (.arr items) ↔ ∀ item ∈ items, limits.WritesAll item := by
  rw [WritesAll, Json.numbers]
  induction items with
  | nil =>
      simp [Json.numbersOfItems]
  | cons item rest ih =>
      rw [Json.numbersOfItems, List.forall_mem_append, ih, List.forall_mem_cons]
      rfl

@[simp] theorem writesAll_obj_iff
    {members : List (String × Json)} :
    limits.WritesAll (.obj members) ↔ ∀ member ∈ members, limits.WritesAll member.2 := by
  rw [WritesAll, Json.numbers]
  induction members with
  | nil =>
      simp [Json.numbersOfMembers]
  | cons member rest ih =>
      rw [Json.numbersOfMembers, List.forall_mem_append, ih, List.forall_mem_cons]
      rfl

theorem not_fails_write
    {document : Json}
    (h : limits.WritesAll document)
    (layout : Json → String) :
    ¬ Fails (document.write limits layout) := by
  rw [Json.write, if_pos (List.all_eq_true.mpr h)]
  exact not_fails_ok _

end Documents

/-- The machine can build a line as long as this one, and write the numbers of its columns. -/
def Fits (limits : Limits) (line : Text) : Prop :=
  line.length ≤ limits.width ∧ limits.writes (line.length + 1) = true

instance (limits : Limits) (line : Text) : Decidable (limits.Fits line) :=
  inferInstanceAs (Decidable (_ ∧ _))

/-- The machine can hold the lines: it can write their number, and each of them fits. -/
structure Holds (limits : Limits) (lines : List Text) : Prop where
  number : limits.writes lines.length = true
  fits : ∀ line ∈ lines, limits.Fits line

instance (limits : Limits) (lines : List Text) : Decidable (limits.Holds lines) :=
  decidable_of_iff (limits.writes lines.length = true ∧ ∀ line ∈ lines, limits.Fits line)
    ⟨fun h => ⟨h.1, h.2⟩, fun h => ⟨h.number, h.fits⟩⟩

end Limits

namespace Diagnostic

/-- The diagnostic points into a line, which is one of the lines, and has no empty suggestion. -/
structure Points (d : Diagnostic) (lines : List Text) (line : Text) : Prop where
  mem : line ∈ lines
  nonempty : line ≠ []
  number : 1 ≤ d.location.line ∧ d.location.line ≤ lines.length
  column : 1 ≤ d.location.column ∧ d.location.column ≤ line.length + 1
  stop : 1 ≤ d.endColumn ∧ d.endColumn ≤ line.length + 1
  helps : "" ∉ d.helps

theorem points_ofClobber
    {settings : Settings}
    {path : Script}
    {lines : List Text}
    {routine : RoutineReport}
    {clobber : Clobber}
    (hroutine : routine ∈ (FileReport.ofLines settings path lines).routines)
    (hclobber : clobber ∈ routine.clobbers)
    (severity : Severity) :
    ∃ line,
      (ofClobber severity (.ofLines settings path lines) routine clobber).Points lines line := by
  obtain ⟨k, line, statement, hk, hline, hread, -⟩ :=
    FileReport.exists_writer_of_mem_clobbers hroutine hclobber
  have hlength : k < lines.length := (List.getElem?_eq_some_iff.mp hline).1
  have hcode : line.trim ≠ [] := Line.trim_ne_nil hread
  obtain ⟨lead, tail, hsplit, hstart, hstop⟩ := exists_columns hcode
  have hwidth : line.length = lead.length + line.trim.length + tail.length := by
    conv_lhs => rw [hsplit, List.length_append, List.length_append]
  have hhelp : Caption.savePattern clobber.register.family ≠ "" := by
    cases clobber.register.family <;> decide
  refine ⟨line, List.mem_of_getElem? hline, ?_, ?_, ?_, ?_, ?_⟩
  · rintro rfl
    exact hcode rfl
  · simp only [ofClobber, hk]
    omega
  · simp only [ofClobber, FileReport.ofLines, hk, Int.toNat_natCast, hline, Option.getD_some, hstart]
    omega
  · simp only [ofClobber, FileReport.ofLines, hk, Int.toNat_natCast, hline, Option.getD_some, hstop]
    omega
  · simpa [ofClobber] using hhelp.symm

end Diagnostic

theorem Inspector.exists_points
    {inspector : Inspector}
    {settings : Settings}
    {path : Script}
    {lines : List Text}
    {d : Diagnostic}
    (hd : d ∈ (inspector.inspect (.ofLines settings path lines)).2) :
    ∃ line, d.Points lines line := by
  obtain ⟨hreport, -⟩ := List.mem_filter.mp hd
  obtain ⟨routine, hroutine, hmap⟩ := List.mem_flatMap.mp hreport
  obtain ⟨clobber, hclobber, rfl⟩ := List.mem_map.mp hmap
  exact Diagnostic.points_ofClobber hroutine hclobber inspector.severity

namespace Diagnostic
namespace Points

variable {d : Diagnostic} {lines : List Text} {line : Text} {limits : Limits}

section Numbers

theorem writes_line
    (h : d.Points lines line)
    (hnumber : limits.writes lines.length = true) :
    limits.writes d.location.line = true := by
  have hline := h.number
  exact Limits.writes_of_le hnumber (by omega)

theorem writes_column
    (h : d.Points lines line)
    (hfits : limits.Fits line) :
    limits.writes d.location.column = true := by
  have hcolumn := h.column
  exact Limits.writes_of_le hfits.2 (by omega)

theorem writes_endColumn
    (h : d.Points lines line)
    (hfits : limits.Fits line) :
    limits.writes d.endColumn = true := by
  have hstop := h.stop
  exact Limits.writes_of_le hfits.2 (by omega)

end Numbers

section Layouts

theorem not_tooWide
    (h : d.Points lines line)
    (hfits : limits.Fits line)
    (sources : Sources) :
    ¬ Layout.TooWide limits sources d := by
  rintro ⟨-, hwide⟩
  have hpos : 0 < line.length := List.length_pos_iff.mpr h.nonempty
  have hcolumn := h.column
  have hstop := h.stop
  have hwidth := hfits.1
  omega

/-- A diagnostic that points into a line can be shown, unless the machine cannot write the number of
lines or the layout is the terminal one and the line does not fit.  Suggestions are never the
reason. -/
theorem print_cases
    (h : d.Points lines line)
    (printer : Printer) :
    (∃ shown, (printer.print d).2 = .ok shown) ∨
      (printer.print d).2 ≠ .error .emptyHelp ∧
        (printer.limits.writes lines.length = false ∨
          printer.layout = .terminal ∧ ¬ printer.limits.Fits line) := by
  by_cases hfails : Fails (printer.print d).2
  · refine Or.inr ⟨?_, ?_⟩
    · rw [Printer.print_snd]
      exact Layout.render_ne_emptyHelp h.helps
    · rcases Printer.exists_print_error_iff.mp hfails with hline | ⟨hlayout, hcause⟩
      · refine Or.inl ((Bool.not_eq_true _).mp fun hnumber => ?_)
        rw [h.writes_line hnumber] at hline
        cases hline
      · refine Or.inr ⟨hlayout, fun hfits => ?_⟩
        rcases hcause with hcolumn | hwide | hhelp
        · rw [h.writes_column hfits] at hcolumn
          cases hcolumn
        · exact h.not_tooWide hfits _ hwide
        · exact h.helps hhelp
  · exact Or.inl (not_fails_iff.mp hfails)

end Layouts

end Points
end Diagnostic

namespace Limits

/-- The diagnostic points into lines that the machine can hold. -/
def Shows (limits : Limits) (d : Diagnostic) : Prop :=
  ∃ lines line, d.Points lines line ∧ limits.Holds lines

namespace Shows

variable {limits : Limits} {d : Diagnostic}

theorem exists_pieces
    {printer : Printer}
    (h : printer.limits.Shows d) :
    ∃ pieces, printer.pieces d = .ok pieces := by
  obtain ⟨lines, line, hpoints, hholds⟩ := h
  rw [← Printer.print_snd]
  refine (hpoints.print_cases printer).resolve_right ?_
  rintro ⟨-, hnumber | ⟨-, hline⟩⟩
  · rw [hholds.number] at hnumber
    cases hnumber
  · exact hline (hholds.fits line hpoints.mem)

/-- The three numbers of the diagnostic can be written. -/
theorem writes
    (h : limits.Shows d) :
    limits.writes d.location.line = true ∧ limits.writes d.location.column = true ∧
      limits.writes d.endColumn = true := by
  obtain ⟨lines, line, hpoints, hholds⟩ := h
  have hfits := hholds.fits line hpoints.mem
  exact
    ⟨hpoints.writes_line hholds.number, hpoints.writes_column hfits, hpoints.writes_endColumn hfits⟩

theorem not_fails_editorLine
    (h : limits.Shows d) :
    ¬ Fails (d.editorLine limits) := by
  obtain ⟨hline, hcolumn, -⟩ := h.writes
  rw [Diagnostic.editorLine, fails_bind_pure_iff, Location.fails_describe_iff, hline, hcolumn]
  simp

theorem writesAll_toJson
    (h : limits.Shows d) :
    limits.WritesAll d.toJson := by
  obtain ⟨hline, hcolumn, hstop⟩ := h.writes
  simp [Diagnostic.toJson, hline, hcolumn, hstop]

theorem writesAll_result
    (h : limits.Shows d) :
    limits.WritesAll (Sarif.result d) := by
  obtain ⟨hline, hcolumn, hstop⟩ := h.writes
  have hnonzero (name : String) {n : Int} (hn : limits.writes n = true) :
      ∀ member ∈ Sarif.nonzero name n, limits.WritesAll member.2 := by
    rw [Sarif.nonzero]
    split <;> simp [hn]
  have hregion : limits.WritesAll (Sarif.region d) := by
    rw [Sarif.region, writesAll_obj_iff, List.forall_mem_append, List.forall_mem_append]
    exact ⟨⟨by simp [hline], hnonzero _ hcolumn⟩, hnonzero _ hstop⟩
  simp [Sarif.result, hregion]

end Shows
end Limits

theorem Sarif.writesAll_log
    {limits : Limits}
    {diagnostics : List Diagnostic}
    (h : ∀ d ∈ diagnostics, limits.Shows d)
    (name version : String) :
    limits.WritesAll (log name version diagnostics) := by
  have hresults : ∀ d ∈ diagnostics, limits.WritesAll (result d) :=
    fun d hd => (h d hd).writesAll_result
  simpa [log, rule] using hresults

namespace FileReport

variable {limits : Limits} {settings : Settings} {path : Script} {lines : List Text}

theorem writes_start
    {routine : RoutineReport}
    (hnumber : limits.writes lines.length = true)
    (hroutine : routine ∈ (ofLines settings path lines).routines) :
    limits.writes (routine.span.start + 1) = true := by
  obtain ⟨span, hspan, rfl⟩ := List.mem_map.mp hroutine
  obtain ⟨i, s, hstart, -, hle, hlt⟩ := Span.exists_bounds hspan
  refine Limits.writes_of_le hnumber ?_
  simp only [RoutineReport.ofSpan, hstart]
  omega

/-- The analysis of lines can be written as a document where their number can. -/
theorem writesAll_toJson
    (hnumber : limits.writes lines.length = true) :
    limits.WritesAll (ofLines settings path lines).toJson := by
  have hroutine (routine : RoutineReport) (hmem : routine ∈ (ofLines settings path lines).routines) :
      limits.WritesAll routine.toJson := by
    have hclobber (clobber : Clobber) (hclobber : clobber ∈ routine.clobbers) :
        limits.writes clobber.line = true := by
      obtain ⟨k, line, statement, hk, hline, -⟩ := exists_writer_of_mem_clobbers hmem hclobber
      have hlt : k < lines.length := (List.getElem?_eq_some_iff.mp hline).1
      exact Limits.writes_of_le hnumber (by omega)
    obtain ⟨span, hspan, rfl⟩ := List.mem_map.mp hmem
    obtain ⟨i, s, hstart, hstop, hle, hlt⟩ := Span.exists_bounds hspan
    have hfirst : limits.writes span.start = true := Limits.writes_of_le hnumber (by omega)
    have hlast : limits.writes span.stop = true := Limits.writes_of_le hnumber (by omega)
    have hregisters (table : List (String × Status)) :
        limits.WritesAll (.obj (table.map fun entry => (entry.1, .str entry.2.name))) :=
      Limits.writesAll_obj_iff.mpr (List.forall_mem_map.mpr fun _ _ => Limits.writesAll_str _)
    simpa [RoutineReport.toJson, RoutineReport.ofSpan, hfirst, hlast, hregisters] using hclobber
  simpa [toJson] using hroutine

end FileReport
end CalleeSaved
