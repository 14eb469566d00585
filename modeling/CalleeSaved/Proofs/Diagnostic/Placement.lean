import CalleeSaved.Proofs.Diagnostic.InlineSuppression

/-!
# The place of a diagnostic

A diagnostic counts its line in the file from a routine, and its columns on the line from what three
ways of trimming leave over.  This module shows that the place is right: the columns enclose the
code of the line, and the code writes the register that the diagnostic names.

**Columns.**  `exists_columns`: the columns enclose the trimmed line, whether or not carriage
returns stand behind it.  `window_ofClobber`: so the trimmed line is the part between them.

**Routines.**  `exists_label_of_mem_clobbers`: a clobbering line has the label of its routine before
it.

**Result.**  `inspect_placed`.
-/

namespace CalleeSaved

open Text

namespace Line

theorem ofText_trim
    (text : Text) :
    ofText text.trim = ofText text := by
  rw [ofText, ofText, trim_trim]

/-- An instruction leaves something on its line. -/
theorem trim_ne_nil
    {text : Text}
    {statement : Statement}
    (h : ofText text = .instruction statement) :
    text.trim ≠ [] := by
  intro hnil
  rw [ofText, hnil] at h
  simp [ofTrimmed, label?, takeName?] at h

end Line

/-- The part of a list between two positions is the one that stands there. -/
theorem Span.window_append
    {α : Type}
    (lead core tail : List α) :
    window (lead ++ core ++ tail) lead.length (lead.length + core.length) = core := by
  have hfirst : position (lead ++ core ++ tail).length lead.length = lead.length :=
    position_of_nat (by simp)
  have hlast :
      position (lead ++ core ++ tail).length (lead.length + core.length) =
        lead.length + core.length := by
    exact_mod_cast position_of_nat (n := lead.length + core.length) (by simp)
  rw [window, hfirst, hlast, ← List.length_append, List.take_left, List.drop_left]

namespace Diagnostic

/-- The columns of a line with some code enclose the code, without the blanks around it. -/
theorem exists_columns
    {line : Text}
    (hline : line.trim ≠ []) :
    ∃ lead tail, line = lead ++ line.trim ++ tail ∧
      startColumn (trimEndWhile (· == '\r') line) = lead.length + 1 ∧
      stopColumn (trimEndWhile (· == '\r') line) = lead.length + line.trim.length + 1 := by
  obtain ⟨returns, hcut, hreturns, -⟩ := trimEndWhile_split (· == '\r') line
  have hblank : Within isBlank returns := by
    intro c hc
    obtain rfl : c = '\r' := by simpa using hreturns c hc
    decide
  generalize trimEndWhile (· == '\r') line = shown at hcut
  have htrim : line.trim = shown.trim := by
    rw [hcut, trim_append_blanks shown hblank]
  rw [htrim] at hline ⊢
  obtain ⟨lead, tail, hshown, hlead, htail, hstart, hend⟩ := trimWhile_split isBlank shown
  change shown = lead ++ shown.trim ++ tail at hshown
  have htrimStart : shown.trimStart = shown.trim ++ tail := by
    conv_lhs => rw [hshown, List.append_assoc, trimStart]
    exact dropWhile_append_of_within hlead (hstart.append hline tail)
  have htrimEnd : shown.trimEnd = lead ++ shown.trim := by
    conv_lhs => rw [hshown, trimEnd]
    refine trimEndWhile_append htail ?_
    rw [List.reverse_append]
    exact hend.append (mt List.reverse_eq_nil_iff.mp hline) lead.reverse
  have hlength : shown.length = lead.length + shown.trim.length + tail.length := by
    conv_lhs => rw [hshown, List.length_append, List.length_append]
  refine ⟨lead, tail ++ returns, ?_, ?_, ?_⟩
  · rw [← List.append_assoc, ← hshown, hcut]
  · rw [startColumn, htrimStart, hlength, List.length_append]
    omega
  · rw [stopColumn, htrimEnd, List.length_append]

/-- The diagnostic for a line with some code points at the code. -/
theorem window_ofClobber
    (severity : Severity)
    (file : FileReport)
    (routine : RoutineReport)
    {clobber : Clobber}
    {k : Nat}
    {line : Text}
    (hk : clobber.line = k)
    (hline : file.lines[k]? = some line)
    (hcode : line.trim ≠ []) :
    let d := ofClobber severity file routine clobber
    d.location.line = k + 1 ∧ 1 ≤ d.location.column ∧ d.location.column < d.endColumn ∧
      Span.window line (d.location.column - 1) (d.endColumn - 1) = line.trim := by
  intro d
  have hplace : d.location.line = k + 1 := congrArg (· + 1) hk
  obtain ⟨lead, tail, hsplit, hstart, hstop⟩ := exists_columns hcode
  have hcolumn : d.location.column = lead.length + 1 := by
    simp [d, ofClobber, hk, hline, hstart]
  have hend : d.endColumn = lead.length + line.trim.length + 1 := by
    simp [d, ofClobber, hk, hline, hstop]
  have hwidth : 0 < line.trim.length := List.length_pos_iff.mpr hcode
  refine ⟨hplace, by omega, by omega, ?_⟩
  have hwindow := Span.window_append lead line.trim tail
  rw [← hsplit] at hwindow
  rw [hcolumn, hend, Int.add_sub_cancel, Int.add_sub_cancel]
  exact hwindow

end Diagnostic

/-- A clobbering line stands after the label line of its routine. -/
theorem FileReport.exists_label_of_mem_clobbers
    {settings : Settings}
    {path : Script}
    {lines : List Text}
    {routine : RoutineReport}
    {clobber : Clobber}
    (hroutine : routine ∈ (ofLines settings path lines).routines)
    (hclobber : clobber ∈ routine.clobbers) :
    ∃ j : Nat, (j : Int) < clobber.line ∧ Span.LabelAt lines j routine.span.label := by
  obtain ⟨span, hspan, rfl⟩ := List.mem_map.mp hroutine
  obtain ⟨j, hstart, hlabel, -, -⟩ := Span.mem_findAll_iff.mp hspan
  obtain ⟨hafter, -⟩ := RoutineReport.inBody_of_mem_clobbers hspan hclobber
  rw [Span.bodyStart, hstart] at hafter
  exact ⟨j, by omega, hlabel⟩

/-- **Place of diagnostics.**  Every diagnostic of every inspector lies on a line of the file, and
its columns enclose a part of the line that is not empty.  That part is the line without the blanks
around it.  It holds an instruction that writes the register of the diagnostic.  The routine of the
diagnostic is named on a label line before it. -/
theorem Inspector.inspect_placed
    (inspector : Inspector)
    (settings : Settings)
    (path : Script)
    (lines : List Text) :
    ∀ d ∈ (inspector.inspect (FileReport.ofLines settings path lines)).2,
      1 ≤ d.location.line ∧ d.location.line ≤ lines.length ∧
      1 ≤ d.location.column ∧ d.location.column < d.endColumn ∧
      (∃ line, lines[(d.location.line - 1).toNat]? = some line ∧
        Span.window line (d.location.column - 1) (d.endColumn - 1) = line.trim ∧
        ∃ r : Register, d.register = r.name ∧ Usage.Writes line.trim r) ∧
      ∃ j : Nat, (j : Int) + 1 < d.location.line ∧ Span.LabelAt lines j d.routine := by
  intro d hd
  obtain ⟨hreport, -⟩ := List.mem_filter.mp hd
  obtain ⟨routine, hroutine, hmap⟩ := List.mem_flatMap.mp hreport
  obtain ⟨clobber, hclobber, rfl⟩ := List.mem_map.mp hmap
  obtain ⟨k, line, statement, hk, hline, hread, hwritten⟩ :=
    FileReport.exists_writer_of_mem_clobbers hroutine hclobber
  obtain ⟨j, hj, hlabel⟩ := FileReport.exists_label_of_mem_clobbers hroutine hclobber
  obtain ⟨hplace, hcolumn, hend, hwindow⟩ :=
    Diagnostic.window_ofClobber inspector.severity (FileReport.ofLines settings path lines) routine
      hk hline (Line.trim_ne_nil hread)
  have hlength : k < lines.length := (List.getElem?_eq_some_iff.mp hline).1
  have hwrites : Usage.Writes line.trim clobber.register := by
    refine ⟨⟨statement, statement.action⟩, ?_,
      Instruction.not_isSave_of_mem_written hwritten, hwritten⟩
    rw [Instruction.ofText?, Line.ofText_trim, hread]
    rfl
  rw [hplace, Int.add_sub_cancel, Int.toNat_natCast]
  exact
    ⟨by omega, by omega, hcolumn, hend, ⟨line, hline, hwindow, clobber.register, rfl, hwrites⟩,
      j, by omega, hlabel⟩

/-- Blanks of several kinds stand around the code, with a carriage return among them and another one
behind them. -/
theorem Inspector.inspect_placed_blanks :
    let line : Text := "\t\u3000clr.l d2 \r\x0c\r".toList
    let lines := ["F:".toList, line, " rts".toList]
    let found := ((new {}).inspect (FileReport.ofLines {} "f.s" lines)).2
    ∃ d ∈ found, d.location = ⟨"f.s", 2, 3⟩ ∧ d.endColumn = 11 ∧
      line.trim = "clr.l d2".toList ∧
      Span.window line (d.location.column - 1) (d.endColumn - 1) = line.trim ∧
      ∃ j : Nat, (j : Int) + 1 < d.location.line ∧ Span.LabelAt lines j d.routine := by
  intro line lines found
  have hfound : found.length = 1 := by decide
  obtain ⟨d, hd⟩ := List.length_eq_one_iff.mp hfound
  have hmem : d ∈ found := by simp [hd]
  obtain ⟨-, -, -, -, ⟨other, hother, hwindow, -⟩, hlabel⟩ :=
    inspect_placed (new {}) {} "f.s" lines d hmem
  have hplace : found.map (fun d => (d.location, d.endColumn)) = [(⟨"f.s", 2, 3⟩, 11)] := by decide
  obtain ⟨hlocation, hend⟩ : d.location = ⟨"f.s", 2, 3⟩ ∧ d.endColumn = 11 := by
    simpa [hd] using hplace
  obtain rfl : line = other := by
    rw [hlocation] at hother
    exact Option.some.inj hother
  exact ⟨d, hmem, hlocation, hend, by decide, hwindow, hlabel⟩

end CalleeSaved
