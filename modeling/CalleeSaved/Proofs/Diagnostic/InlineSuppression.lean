import CalleeSaved.Proofs.Clobber.Sites
import CalleeSaved.Proofs.Diagnostic.Suppressions
import CalleeSaved.Proofs.Routine.Readings
import CalleeSaved.Proofs.Source.TrailingComment

/-!
# Suppressing one line

A suppression comment behind a clobbering line takes the diagnostics of that line out of a report,
and nothing else changes.

**Code.**  `Line.ofText_attach`: the line reads as before, so the analysis of the file is the same.

**Comment.**  `ofLine?_attach`: the line now carries a suppression of everything, for itself.

**Diagnostics.**  `ofClobber_set`: the diagnostics of other lines do not look at this one.
`covers_attach_iff`: what is suppressed afterwards.

**Result.**  `inspect_attach`.
-/

namespace CalleeSaved

open Text

/-- The line with a comment behind it that suppresses everything. -/
def SuppressionComment.attach (text : Text) : Text :=
  text.trimEnd ++ " ; regtrack-suppress".toList

theorem Line.ofText_attach
    {text : Text}
    {statement : Statement}
    (h : ofText text = .instruction statement)
    (hcode : ';' ∉ text) :
    ofText (SuppressionComment.attach text) = ofText text := by
  rw [h]
  have hsplit : " ; regtrack-suppress".toList = [' '] ++ ';' :: " regtrack-suppress".toList := by
    decide
  have hgap : Spaces [' '] := by decide
  have hcomment : '\n' ∉ " regtrack-suppress".toList := by decide
  rw [SuppressionComment.attach, hsplit]
  exact ofText_append_comment h hcode hgap hcomment

namespace Suppression

theorem ofLine?_eq_none
    {text : Text}
    (hcode : ';' ∉ text)
    (marker : Text)
    (known : Option (List String))
    (file : Script)
    (number : Int) :
    ofLine? marker known file number text = none := by
  rw [ofLine?, SuppressionComment.find?_eq_none hcode]

theorem ofLine?_attach
    {text : Text}
    {statement : Statement}
    (h : Line.ofText text = .instruction statement)
    (hcode : ';' ∉ text)
    (file : Script)
    (number : Int) :
    ofLine? ({} : Settings).marker (some Inspector.knownIds) file number
        (SuppressionComment.attach text) =
      some ⟨file, number, ["*"]⟩ := by
  have hplace : SuppressionComment.standsAlone (SuppressionComment.attach text) = false :=
    SuppressionComment.standsAlone_of_instruction h _
  have hfind :
      SuppressionComment.find? ({} : Settings).marker (SuppressionComment.attach text) =
        some [] := by
    have hfront : ';' ∉ text.trimEnd := fun hmem => hcode (mem_of_mem_trimEnd hmem)
    rw [SuppressionComment.attach, SuppressionComment.find?_append hfront]
    decide
  have hids : SuppressionComment.knownIds (some Inspector.knownIds) [] = [] := by decide
  simp only [ofLine?, hfind, hids, hplace]
  rfl

end Suppression

/-- Every reported line of a file holds an instruction that writes the reported register. -/
theorem FileReport.exists_writer_of_mem_clobbers
    {settings : Settings}
    {path : Script}
    {lines : List Text}
    {routine : RoutineReport}
    {clobber : Clobber}
    (hroutine : routine ∈ (ofLines settings path lines).routines)
    (hclobber : clobber ∈ routine.clobbers) :
    ∃ (k : Nat) (text : Text) (statement : Statement), clobber.line = k ∧
      lines[k]? = some text ∧ Line.ofText text = .instruction statement ∧
        clobber.register ∈ Instruction.written ⟨statement, statement.action⟩ := by
  obtain ⟨span, hspan, rfl⟩ := List.mem_map.mp hroutine
  obtain ⟨insn, ⟨-, -, -, k, text, hline, htext, hinsn⟩, hfirst⟩ :=
    (RoutineReport.mem_clobbers_iff hspan).mp hclobber
  cases hread : Line.ofText text <;> simp [Instruction.ofText?, Instruction.ofLine?, hread] at hinsn
  exact ⟨k, text, _, hline, htext, hread, hinsn ▸ hfirst.mem_written⟩

theorem FileReport.exists_instruction_of_mem_clobbers
    {settings : Settings}
    {path : Script}
    {lines : List Text}
    {routine : RoutineReport}
    {clobber : Clobber}
    (hroutine : routine ∈ (ofLines settings path lines).routines)
    (hclobber : clobber ∈ routine.clobbers) :
    ∃ (k : Nat) (text : Text) (statement : Statement), clobber.line = k ∧
      lines[k]? = some text ∧ Line.ofText text = .instruction statement := by
  obtain ⟨k, text, statement, hline, htext, hread, -⟩ :=
    exists_writer_of_mem_clobbers hroutine hclobber
  exact ⟨k, text, statement, hline, htext, hread⟩

namespace Diagnostic

/-- A diagnostic looks at no line but its own. -/
theorem ofClobber_set
    {clobber : Clobber}
    {i k : Nat}
    (hline : clobber.line = k)
    (hk : i ≠ k)
    (severity : Severity)
    (settings : Settings)
    (path : Script)
    (lines : List Text)
    (new : Text)
    (routine : RoutineReport) :
    ofClobber severity (FileReport.ofLines settings path (lines.set i new)) routine clobber =
      ofClobber severity (FileReport.ofLines settings path lines) routine clobber := by
  have htext : (lines.set i new)[clobber.line.toNat]? = lines[clobber.line.toNat]? := by
    rw [hline, Int.toNat_natCast, List.getElem?_set_ne hk]
  simp only [ofClobber, FileReport.ofLines, htext]

/-- Two selections from the diagnostics of two files agree when they agree clobber by clobber. -/
theorem filter_ofReport_eq
    {severity : Severity}
    {file other : FileReport}
    {p q : Diagnostic → Bool}
    (hroutines : other.routines = file.routines)
    (hselect : ∀ routine ∈ file.routines, ∀ clobber ∈ routine.clobbers,
      p (ofClobber severity other routine clobber) = q (ofClobber severity file routine clobber))
    (hsame : ∀ routine ∈ file.routines, ∀ clobber ∈ routine.clobbers,
      q (ofClobber severity file routine clobber) = true →
        ofClobber severity other routine clobber = ofClobber severity file routine clobber) :
    (ofReport severity other).filter p = (ofReport severity file).filter q := by
  rw [ofReport, ofReport, hroutines, List.filter_flatMap, List.filter_flatMap]
  refine List.flatMap_congr fun routine hroutine => ?_
  rw [List.filter_map, List.filter_map]
  have hkept : routine.clobbers.filter (p ∘ ofClobber severity other routine) =
      routine.clobbers.filter (q ∘ ofClobber severity file routine) :=
    List.filter_congr (hselect routine hroutine)
  rw [hkept]
  refine List.map_congr_left fun clobber hclobber => ?_
  obtain ⟨hmem, hq⟩ := List.mem_filter.mp hclobber
  exact hsame routine hroutine clobber hmem hq

end Diagnostic

namespace Inspector

/-- What a new inspector suppresses in a file. -/
theorem covers_new_iff
    {settings : Settings}
    {path : Script}
    {lines : List Text}
    {d : Diagnostic} :
    ((new settings).suppressions.load path lines).covers d = true ↔
      ∃ entry ∈ Suppression.ofLines settings.marker (some knownIds) path 1 lines,
        entry.file = d.location.file ∧ entry.line = d.location.line ∧
          Suppression.lists entry.ids d.id = true := by
  simp [Suppressions.covers_iff, Suppressions.load, new, Suppression.lists]

/-- The comment suppresses the diagnostics of its line besides those suppressed before. -/
theorem covers_attach_iff
    {settings : Settings}
    {lines : List Text}
    {i : Nat}
    {text : Text}
    {statement : Statement}
    {d : Diagnostic}
    (hmarker : settings.marker = ({} : Settings).marker)
    (htext : lines[i]? = some text)
    (hread : Line.ofText text = .instruction statement)
    (hcode : ';' ∉ text) :
    ((new settings).suppressions.load d.location.file
        (lines.set i (SuppressionComment.attach text))).covers d = true ↔
      ((new settings).suppressions.load d.location.file lines).covers d = true ∨
        d.location.line = i + 1 := by
  rw [covers_new_iff, covers_new_iff, hmarker]
  have hmem :=
    Suppression.mem_ofLines_set_iff htext (Suppression.ofLine?_eq_none hcode _ _ _ _)
      (Suppression.ofLine?_attach hread hcode d.location.file (1 + i))
  constructor
  · rintro ⟨entry, hentry, hplace⟩
    rcases (hmem entry).mp hentry with hold | rfl
    · exact Or.inl ⟨entry, hold, hplace⟩
    · obtain ⟨-, hline, -⟩ := hplace
      exact Or.inr (hline.symm.trans (Int.add_comm 1 i))
  · rintro (⟨entry, hentry, hplace⟩ | hline)
    · exact ⟨entry, (hmem entry).mpr (Or.inl hentry), hplace⟩
    · refine ⟨_, (hmem _).mpr (Or.inr rfl), rfl, ?_, by simp [Suppression.lists]⟩
      exact (Int.add_comm 1 i).trans hline.symm

/-- **Suppressing one line.**  Let a line without a comment be reported in a file, under the default
marker.  With a suppression comment behind it, the file has the same routines, with the same
verdicts and the same clobbers, and a new inspector finds what it found before, less the diagnostics
on that line. -/
theorem inspect_attach
    (settings : Settings)
    (path : Script)
    (lines : List Text)
    (i : Nat)
    (text : Text)
    (hmarker : settings.marker = ({} : Settings).marker)
    (htext : lines[i]? = some text)
    (hsite : ∃ clobber ∈ (FileReport.ofLines settings path lines).clobbers, clobber.line = i)
    (hcode : ';' ∉ text) :
    let commented := lines.set i (SuppressionComment.attach text)
    Span.findAll settings commented = Span.findAll settings lines ∧
      (FileReport.ofLines settings path commented).routines =
        (FileReport.ofLines settings path lines).routines ∧
      ((new settings).inspect (FileReport.ofLines settings path commented)).2 =
        ((new settings).inspect (FileReport.ofLines settings path lines)).2.filter
          (fun d => d.location.line ≠ (i : Int) + 1) := by
  intro commented
  obtain ⟨site, hsite, hi⟩ := hsite
  obtain ⟨routine, hroutine, hclobber⟩ := List.mem_flatMap.mp hsite
  obtain ⟨k, other, statement, hk, hother, hread⟩ :=
    FileReport.exists_instruction_of_mem_clobbers hroutine hclobber
  obtain rfl : i = k := by omega
  obtain rfl : text = other := Option.some.inj (htext.symm.trans hother)
  have halike : ReadAlike commented lines := .set htext (Line.ofText_attach hread hcode)
  have hroutines := FileReport.routines_of_readAlike halike settings path
  refine ⟨Span.findAll_of_readAlike halike settings, hroutines, ?_⟩
  simp only [inspect, Suppressions.keep, List.filter_filter]
  refine Diagnostic.filter_ofReport_eq hroutines ?_ ?_
  · intro routine hroutine clobber hclobber
    have hcovers :=
      covers_attach_iff
        (d := Diagnostic.ofClobber (new settings).severity (.ofLines settings path commented)
          routine clobber)
        hmarker htext hread hcode
    rw [Bool.eq_iff_iff]
    simp only [Bool.not_eq_true', Bool.and_eq_true, decide_eq_true_eq, ← Bool.not_eq_true]
    exact (not_congr hcovers).trans (not_or.trans and_comm)
  · intro routine hroutine clobber hclobber hkept
    obtain ⟨k, -, -, hline, -⟩ :=
      FileReport.exists_instruction_of_mem_clobbers hroutine hclobber
    refine Diagnostic.ofClobber_set hline ?_ _ settings path lines _ routine
    rintro rfl
    simp [Diagnostic.ofClobber, hline] at hkept

/-- Of two reported lines only the other one is left. -/
theorem inspect_attach_two_sites :
    let lines := ["F:".toList, "  move.l d0,d2 ".toList, " clr.l d3".toList, " rts".toList]
    let commented := lines.set 1 "  move.l d0,d2 ; regtrack-suppress".toList
    ((new {}).inspect (FileReport.ofLines {} "input" lines)).2.map Diagnostic.register =
        ["D2", "D3"] ∧
      ((new {}).inspect (FileReport.ofLines {} "input" commented)).2 =
        ((new {}).inspect (FileReport.ofLines {} "input" lines)).2.filter
          (fun d => d.location.line ≠ 2) := by
  intro lines commented
  refine ⟨by decide, ?_⟩
  exact
    (inspect_attach {} "input" lines 1 "  move.l d0,d2 ".toList rfl rfl
      ⟨⟨1, .d 2⟩, by decide, rfl⟩ (by decide)).2.2

end Inspector
end CalleeSaved
