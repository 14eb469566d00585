import CalleeSaved.Proofs.Clobber.Sites
import CalleeSaved.Proofs.Span.Insertion

/-!
# Inert lines

A line that is neither a label nor a return and that does nothing to registers can be put anywhere
into a file.  Every routine keeps its verdict and its clobbers, and what stands at the place of the
new line or after it moves down by one.

**Lines.**  `Inert` says that a line names, writes and saves no register.  Comment lines are inert.

**Reports.**  `usage_insert`: a body uses registers as before, whether or not the new line belongs to
it.  `mem_clobbers_insert_iff`: the lines that clobber are those that did, and never the new one.
`ofSpan_insert` puts the two together.

**Results.**
* `routines_insert`: the reports of a file with an inert line put in.
* `exists_clobber_insert`: a clobber right after the line is still found.
-/

namespace CalleeSaved

theorem Mark.ofText_eq_plain
    {text : Text}
    (hlabel : (Line.ofText text).isLabel = false)
    (hreturn : (Line.ofText text).isReturn = false) :
    ofText text = .plain := by
  unfold ofText
  cases hline : Line.ofText text with
  | label name =>
      simp [hline, Line.isLabel] at hlabel
  | instruction statement =>
      rw [hline] at hreturn
      simp [Line.mark, hreturn]
  | blank =>
      rfl
  | comment =>
      rfl
  | unknown =>
      rfl

theorem Mark.ofText_of_comment
    {text : Text}
    (h : Line.ofText text = .comment) :
    ofText text = .plain := by
  rw [ofText, h]
  rfl

namespace Usage

/-- The line holds no instruction, or one that names, writes and saves no register. -/
def Inert (text : Text) : Prop :=
  ∀ insn, Instruction.ofText? text = some insn →
    insn.referenced = [] ∧ insn.written = [] ∧ insn.saved = ∅

instance
    (text : Text) :
    Decidable (Inert text) :=
  match h : Instruction.ofText? text with
  | none => isTrue (by simp [Inert, h])
  | some insn =>
      decidable_of_iff (insn.referenced = [] ∧ insn.written = [] ∧ insn.saved = ∅)
        (by simp [Inert, h])

theorem Inert.ofLine_eq
    {text : Text}
    (h : Inert text) :
    ofLine text = ∅ := by
  unfold ofLine
  cases hinsn : Instruction.ofText? text with
  | none =>
      rfl
  | some insn =>
      obtain ⟨hreferenced, hwritten, hsaved⟩ := h insn hinsn
      simp only [Option.map_some, Option.getD_some, ofInstruction, hreferenced, hwritten, hsaved]
      split
      · rfl
      · rfl

theorem ofLine_of_comment
    {text : Text}
    (h : Line.ofText text = .comment) :
    ofLine text = ∅ := by
  rw [ofLine, Instruction.ofText?, h]
  rfl

end Usage

/-- The clobber after a line is put into its file at the index `n`. -/
def Clobber.shiftFrom (n : Nat) (clobber : Clobber) : Clobber :=
  { clobber with line := Line.shiftFrom n clobber.line }

/-- A routine holds the instructions that it held, at their new lines. -/
theorem Span.holds_insert_iff
    {xs ys : List Text}
    {text : Text}
    {span : Span}
    {i j : Nat}
    {insn : Instruction}
    (hij : Line.shiftFrom xs.length i = j) :
    (span.makeRoom (xs ++ ys) xs.length).Holds (xs ++ text :: ys) j insn ↔
      span.Holds (xs ++ ys) i insn := by
  rw [holds_iff, holds_iff, ← hij, inBody_makeRoom_iff, getElem?_insert hij]

namespace RoutineReport

/-- The report after an inert line is put into its file at the index `n`: the lines it names make
room, the label, the verdict and the registers stay. -/
def makeRoom (lines : List Text) (n : Nat) (report : RoutineReport) : RoutineReport :=
  ⟨report.span.makeRoom lines n, report.verdict, report.clobbers.map (Clobber.shiftFrom n)⟩

section Insertion

variable
  {settings : Settings}
  {xs ys : List Text}
  {text : Text}
  {span : Span}
  (hplain : Mark.ofText text = .plain)
  (hinert : Usage.ofLine text = ∅)
  (hspan : span ∈ Span.findAll settings (xs ++ ys))
include hplain hinert hspan

theorem usage_insert :
    Usage.ofLines ((span.makeRoom (xs ++ ys) xs.length).body (xs ++ text :: ys)) =
      Usage.ofLines (span.body (xs ++ ys)) := by
  refine Usage.ofLines_eq_of_effective fun other heffective => ?_
  rw [Span.mem_body_iff hspan, Span.mem_body_iff (Span.makeRoom_mem_findAll hplain hspan)]
  constructor
  · rintro ⟨j, hbody, hother⟩
    have hnew : j ≠ xs.length := by
      rintro rfl
      obtain rfl : text = other := by simpa using hother
      exact heffective hinert
    obtain ⟨i, hi⟩ := Line.exists_shiftFrom_eq hnew
    rw [← hi, Span.inBody_makeRoom_iff] at hbody
    rw [Span.getElem?_insert hi] at hother
    exact ⟨i, hbody, hother⟩
  · rintro ⟨i, hbody, hother⟩
    obtain ⟨j, hj⟩ := Line.exists_shiftFrom xs.length i
    refine ⟨j, ?_, ?_⟩
    · rwa [← hj, Span.inBody_makeRoom_iff]
    · rwa [Span.getElem?_insert hj]

theorem verdict_insert :
    (ofSpan (xs ++ text :: ys) (span.makeRoom (xs ++ ys) xs.length)).verdict =
      (ofSpan (xs ++ ys) span).verdict :=
  congrArg Verdict.ofUsage (usage_insert hplain hinert hspan)

theorem mem_clobbers_insert_iff
    {moved : Clobber} :
    moved ∈ (ofSpan (xs ++ text :: ys) (span.makeRoom (xs ++ ys) xs.length)).clobbers ↔
      ∃ clobber ∈ (ofSpan (xs ++ ys) span).clobbers, clobber.shiftFrom xs.length = moved := by
  rw [mem_clobbers_iff (Span.makeRoom_mem_findAll hplain hspan),
    verdict_insert hplain hinert hspan]
  simp only [mem_clobbers_iff hspan]
  constructor
  · rintro ⟨insn, hheld, hfirst⟩
    obtain ⟨j, hline⟩ := hheld.exists_index
    rw [hline] at hheld
    have hnew : j ≠ xs.length := by
      rintro rfl
      obtain ⟨-, hsave, other, hother, hinsn⟩ := Span.holds_iff.mp hheld
      obtain rfl : text = other := by simpa using hother
      have hwrites : moved.register ∈ (Usage.ofLine text).modified :=
        Usage.mem_modified_ofLine.mpr ⟨insn, hinsn, hsave, hfirst.mem_written⟩
      rw [hinert] at hwrites
      exact RegisterSet.not_mem_empty _ hwrites
    obtain ⟨i, hi⟩ := Line.exists_shiftFrom_eq hnew
    refine ⟨⟨i, moved.register⟩, ⟨insn, (Span.holds_insert_iff hi).mp hheld, hfirst⟩, ?_⟩
    simp only [Clobber.shiftFrom, hi, ← hline]
  · rintro ⟨clobber, ⟨insn, hheld, hfirst⟩, rfl⟩
    obtain ⟨i, hline⟩ := hheld.exists_index
    rw [hline] at hheld
    obtain ⟨j, hj⟩ := Line.exists_shiftFrom xs.length i
    refine ⟨insn, ?_, hfirst⟩
    simp only [Clobber.shiftFrom, hline, hj]
    exact (Span.holds_insert_iff hj).mpr hheld

theorem ofSpan_insert :
    ofSpan (xs ++ text :: ys) (span.makeRoom (xs ++ ys) xs.length) =
      (ofSpan (xs ++ ys) span).makeRoom (xs ++ ys) xs.length := by
  have hclobbers :
      (ofSpan (xs ++ text :: ys) (span.makeRoom (xs ++ ys) xs.length)).clobbers =
        (ofSpan (xs ++ ys) span).clobbers.map (Clobber.shiftFrom xs.length) := by
    refine eq_of_mem_iff_of_ordered Clobber.line (Clobber.findAll_ordered _ _ _) ?_ ?_
    · rw [List.pairwise_map]
      exact (Clobber.findAll_ordered _ _ _).imp fun h => Line.shiftFrom_lt_iff.mpr h
    · intro moved
      rw [mem_clobbers_insert_iff hplain hinert hspan, List.mem_map]
  calc ofSpan (xs ++ text :: ys) (span.makeRoom (xs ++ ys) xs.length)
      = ⟨span.makeRoom (xs ++ ys) xs.length,
          (ofSpan (xs ++ text :: ys) (span.makeRoom (xs ++ ys) xs.length)).verdict,
          (ofSpan (xs ++ text :: ys) (span.makeRoom (xs ++ ys) xs.length)).clobbers⟩ := rfl
    _ = (ofSpan (xs ++ ys) span).makeRoom (xs ++ ys) xs.length := by
        rw [hclobbers, verdict_insert hplain hinert hspan]
        rfl

end Insertion
end RoutineReport

namespace FileReport

/-- **Inert lines.**  Let a line be neither a label nor a return, and let it name, write and save no
register.  Put into a file at any place, it leaves the routines in their number and order, with their
labels and verdicts.  The label lines and the clobbering lines from that place on move down by one,
and so does the last line of a routine that ends on a return.  Any other routine still reaches to the
line before what holds it up. -/
theorem routines_insert
    (settings : Settings)
    (path : Script)
    (xs : List Text)
    (text : Text)
    (ys : List Text)
    (hlabel : (Line.ofText text).isLabel = false)
    (hreturn : (Line.ofText text).isReturn = false)
    (hinert : Usage.Inert text) :
    (ofLines settings path (xs ++ text :: ys)).routines =
      (ofLines settings path (xs ++ ys)).routines.map
        (RoutineReport.makeRoom (xs ++ ys) xs.length) := by
  have hplain := Mark.ofText_eq_plain hlabel hreturn
  simp only [ofLines, Span.findAll_insert hplain, List.map_map]
  refine List.map_congr_left fun span hspan => ?_
  exact RoutineReport.ofSpan_insert hplain hinert.ofLine_eq hspan

/-- A save of the stack pointer alone is inert.  Put between two routines, it becomes the last line
of the first one, which no return ends. -/
theorem routines_insert_seam :
    let xs := ["A:".toList, " clr.l d2".toList]
    let ys := ["B:".toList, " clr.l d3".toList, " rts".toList, "A:".toList, " rte".toList]
    let text := " movem.l a7,-(sp)".toList
    ((ofLines {} "input" (xs ++ ys)).routines.map fun routine =>
        (routine.span, routine.clobbers)) =
      [(⟨"A", 0, 1⟩, [⟨1, .d 2⟩]), (⟨"B", 2, 4⟩, [⟨3, .d 3⟩]), (⟨"A", 5, 6⟩, [])] ∧
    ((ofLines {} "input" (xs ++ text :: ys)).routines.map fun routine =>
        (routine.span, routine.clobbers)) =
      [(⟨"A", 0, 2⟩, [⟨1, .d 2⟩]), (⟨"B", 3, 5⟩, [⟨4, .d 3⟩]), (⟨"A", 6, 7⟩, [])] ∧
    (ofLines {} "input" (xs ++ text :: ys)).routines =
      (ofLines {} "input" (xs ++ ys)).routines.map (RoutineReport.makeRoom (xs ++ ys) 2) := by
  intro xs ys text
  have hinert : Usage.Inert text := by decide
  refine ⟨by decide, by decide, ?_⟩
  exact routines_insert {} "input" xs text ys (by decide) (by decide) hinert

/-- A clobber right after the place of an inert line is found one line later. -/
theorem exists_clobber_insert
    {settings : Settings}
    {path : Script}
    {xs ys : List Text}
    {text : Text}
    (hplain : Mark.ofText text = .plain)
    (hinert : Usage.ofLine text = ∅)
    (h : ∃ clobber ∈ (ofLines settings path (xs ++ ys)).clobbers, clobber.line = xs.length) :
    ∃ clobber ∈ (ofLines settings path (xs ++ text :: ys)).clobbers,
      clobber.line = xs.length + 1 := by
  obtain ⟨clobber, hclobber, hline⟩ := h
  obtain ⟨routine, hroutine, hmem⟩ := List.mem_flatMap.mp hclobber
  obtain ⟨span, hspan, rfl⟩ := List.mem_map.mp hroutine
  have hmoved := (RoutineReport.mem_clobbers_insert_iff hplain hinert hspan).mpr ⟨clobber, hmem, rfl⟩
  refine ⟨clobber.shiftFrom xs.length, List.mem_flatMap.mpr ⟨_, ?_, hmoved⟩, ?_⟩
  · exact List.mem_map_of_mem (Span.makeRoom_mem_findAll hplain hspan)
  · simp [Clobber.shiftFrom, Line.shiftFrom, hline]

end FileReport
end CalleeSaved
