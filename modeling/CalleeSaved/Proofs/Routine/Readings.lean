import CalleeSaved.Routine.Report

/-!
# Lines that read alike

Every step of the analysis looks at a line through its reading alone, so two files whose lines read
alike have the same routines, with the same verdicts and the same clobbers.

**Steps.**  `Usage.ofLines_of_readAlike`, `Clobber.findAll_of_readAlike` and
`Span.findAll_of_readAlike`.

**Result.**  `FileReport.routines_of_readAlike`.
-/

namespace CalleeSaved

/-- The two files have as many lines, and the lines read alike. -/
def ReadAlike (lines others : List Text) : Prop :=
  lines.map Line.ofText = others.map Line.ofText

namespace ReadAlike

/-- A line may be exchanged for one that reads alike. -/
theorem set
    {lines : List Text}
    {i : Nat}
    {text new : Text}
    (htext : lines[i]? = some text)
    (hread : Line.ofText new = Line.ofText text) :
    ReadAlike (lines.set i new) lines := by
  have hline : (lines.map Line.ofText)[i]? = some (Line.ofText text) := by
    simp [htext]
  obtain ⟨hi, hget⟩ := List.getElem?_eq_some_iff.mp hline
  rw [ReadAlike, List.map_set, hread, ← hget, List.set_getElem_self hi]

theorem body
    {lines others : List Text}
    (h : ReadAlike lines others)
    (span : Span) :
    ReadAlike (span.body lines) (span.body others) := by
  have hmap (texts : List Text) :
      (span.body texts).map Line.ofText = span.body (texts.map Line.ofText) := by
    simp [Span.body, Span.window, List.map_drop, List.map_take]
  rw [ReadAlike, hmap, hmap, h]

end ReadAlike

theorem Usage.ofLines_of_readAlike
    {lines others : List Text}
    (h : ReadAlike lines others) :
    ofLines lines = ofLines others := by
  have hmap (texts : List Text) :
      ofLines texts =
        (texts.map Line.ofText).foldl
          (fun usage line => usage ∪ ((Instruction.ofLine? line).map ofInstruction).getD ∅) ∅ := by
    rw [List.foldl_map]
    rfl
  rw [hmap, hmap, h]

theorem Clobber.findAll_of_readAlike
    {lines others : List Text}
    (h : ReadAlike lines others)
    (usage : Usage)
    (line : Int) :
    findAll usage line lines = findAll usage line others := by
  induction lines generalizing line others with
  | nil =>
      obtain rfl : others = [] := by simpa [ReadAlike] using h.symm
      rfl
  | cons text lines ih =>
      cases others with
      | nil =>
          simp [ReadAlike] at h
      | cons other others =>
          obtain ⟨hhead, htail⟩ := List.cons.inj h
          have hregister : register? usage text = register? usage other := by
            simp only [register?, Instruction.ofText?, hhead]
          rw [findAll, findAll, hregister, ih htail]

theorem Span.findAll_of_readAlike
    {lines others : List Text}
    (h : ReadAlike lines others)
    (settings : Settings) :
    findAll settings lines = findAll settings others := by
  have hmap (texts : List Text) :
      texts.map Mark.ofText = (texts.map Line.ofText).map Line.mark :=
    List.map_map.symm
  rw [findAll, findAll, hmap, hmap, h]

theorem RoutineReport.ofSpan_of_readAlike
    {lines others : List Text}
    (h : ReadAlike lines others)
    (span : Span) :
    ofSpan lines span = ofSpan others span := by
  have hverdict : Verdict.ofBody (span.body lines) = Verdict.ofBody (span.body others) := by
    rw [Verdict.ofBody, Verdict.ofBody, Usage.ofLines_of_readAlike (h.body span)]
  simp only [ofSpan, hverdict, Clobber.findAll_of_readAlike (h.body span)]

/-- The analysis of a file depends on the readings of its lines only. -/
theorem FileReport.routines_of_readAlike
    {lines others : List Text}
    (h : ReadAlike lines others)
    (settings : Settings)
    (path : Script) :
    (ofLines settings path lines).routines = (ofLines settings path others).routines := by
  have hspan : RoutineReport.ofSpan lines = RoutineReport.ofSpan others :=
    funext (RoutineReport.ofSpan_of_readAlike h)
  simp only [ofLines, Span.findAll_of_readAlike h, hspan]

end CalleeSaved
