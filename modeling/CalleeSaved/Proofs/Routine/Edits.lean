import CalleeSaved.Proofs.Span.Location
import CalleeSaved.Routine.Report

/-!
# Edits of one line

An edit of a line that is neither a label nor a return, before or after the edit, is felt only by the
routines whose body holds the line.

**Edits.**  `PlainEdit` relates the two versions of a file.  `PlainEdit.marks_eq`: the search for
routines sees no difference between them.

**Bodies.**  `PlainEdit.body_eq`: the body of every other routine is the same.

**Result.**  `routines_edit`.
-/

namespace CalleeSaved

namespace Span

/-- No label line and no return line stands at the index. -/
def PlainAt (lines : List Text) (i : Nat) : Prop :=
  (∀ name, ¬ LabelAt lines i name) ∧ ¬ ReturnAt lines i

theorem plainAt_iff
    {lines : List Text}
    {i : Nat} :
    PlainAt lines i ↔ ∀ mark, (lines.map Mark.ofText)[i]? = some mark → mark = .plain := by
  simp only [PlainAt, labelAt_iff, returnAt_iff]
  constructor
  · rintro ⟨hlabel, hreturn⟩ mark hmark
    cases mark with
    | label name =>
        exact absurd hmark (hlabel name)
    | ret =>
        exact absurd hmark hreturn
    | plain =>
        rfl
  · intro hplain
    constructor
    · intro name hmark
      cases hplain _ hmark
    · intro hmark
      cases hplain _ hmark

end Span

/-- Two files of the same length that differ at most in the line at the index, which is neither a
label line nor a return line in either of them. -/
structure PlainEdit (i : Nat) (lines others : List Text) : Prop where
  length_eq : lines.length = others.length
  agree : ∀ k, k ≠ i → lines[k]? = others[k]?
  plain_before : Span.PlainAt lines i
  plain_after : Span.PlainAt others i

namespace PlainEdit

variable
  {i : Nat}
  {lines others : List Text}
  (hedit : PlainEdit i lines others)
include hedit

theorem marks_eq :
    lines.map Mark.ofText = others.map Mark.ofText := by
  refine List.ext_getElem (by simp [hedit.length_eq]) fun k hk hk' => ?_
  by_cases hki : k = i
  · subst hki
    rw [Span.plainAt_iff.mp hedit.plain_before _ (List.getElem?_eq_getElem hk),
      Span.plainAt_iff.mp hedit.plain_after _ (List.getElem?_eq_getElem hk')]
  · have hline := hedit.agree k hki
    refine Option.some.inj ?_
    rw [← List.getElem?_eq_getElem hk, ← List.getElem?_eq_getElem hk', List.getElem?_map, hline,
      List.getElem?_map]

theorem findAll_eq
    (settings : Settings) :
    Span.findAll settings lines = Span.findAll settings others := by
  rw [Span.findAll, Span.findAll, hedit.marks_eq]

theorem body_eq
    {settings : Settings}
    {span : Span}
    (hspan : span ∈ Span.findAll settings lines)
    (hout : ¬ span.InBody i) :
    span.body lines = span.body others := by
  have hspan' : span ∈ Span.findAll settings others := hedit.findAll_eq settings ▸ hspan
  refine List.ext_getElem? fun j => Option.ext fun text => ?_
  rw [Span.getElem?_body_iff hspan, Span.getElem?_body_iff hspan']
  refine exists_congr fun k => and_congr_right fun hk => and_congr_right fun hstop => ?_
  have hki : k ≠ i := by
    rintro rfl
    exact hout ⟨by omega, hstop⟩
  rw [hedit.agree k hki]

theorem ofSpan_eq
    {settings : Settings}
    {span : Span}
    (hspan : span ∈ Span.findAll settings lines)
    (hout : ¬ span.InBody i) :
    RoutineReport.ofSpan lines span = RoutineReport.ofSpan others span := by
  simp only [RoutineReport.ofSpan, hedit.body_eq hspan hout]

end PlainEdit

namespace FileReport

/-- **Edits.**  Let two files have the same length and differ at most in one line, which is neither a
label line nor a return line in either of them.  They have the same routines, and a routine whose
body does not hold that line has the same report in both: verdict, usage and clobbers. -/
theorem routines_edit
    (settings : Settings)
    (path : Script)
    (i : Nat)
    (lines others : List Text)
    (hedit : PlainEdit i lines others) :
    Span.findAll settings lines = Span.findAll settings others ∧
      ∀ (k : Nat) (routine : RoutineReport),
        (ofLines settings path lines).routines[k]? = some routine →
        ¬ routine.span.InBody i →
        (ofLines settings path others).routines[k]? = some routine := by
  have hspans := hedit.findAll_eq settings
  refine ⟨hspans, ?_⟩
  intro k routine hroutine hout
  simp only [ofLines, List.getElem?_map, Option.map_eq_some_iff] at hroutine ⊢
  obtain ⟨span, hspan, rfl⟩ := hroutine
  refine ⟨span, hspans ▸ hspan, ?_⟩
  exact (hedit.ofSpan_eq (List.mem_of_getElem? hspan) hout).symm

/-- A save put before the second of two shared entries keeps the register for the first routine.  The
second one, which does not hold that line, still clobbers it. -/
theorem routines_edit_shared_entry :
    let settings : Settings := { shareEntryLabels := true }
    let lines := ["A:".toList, " nop".toList, "B:".toList, " clr.l d2".toList, " rts".toList]
    let others := lines.set 1 " movem.l d2,-(sp)".toList
    ((ofLines settings "input" lines).routines.map RoutineReport.clobbers) =
        [[⟨3, .d 2⟩], [⟨3, .d 2⟩]] ∧
      ((ofLines settings "input" others).routines.map RoutineReport.clobbers) =
        [[], [⟨3, .d 2⟩]] ∧
      (ofLines settings "input" others).routines[1]? =
        some (RoutineReport.ofSpan lines ⟨"B", 2, 4⟩) := by
  intro settings lines others
  have hlines : lines.map Mark.ofText = [.label "A", .plain, .label "B", .plain, .ret] := by decide
  have hothers : others.map Mark.ofText = [.label "A", .plain, .label "B", .plain, .ret] := by
    decide
  have hedit : PlainEdit 1 lines others :=
    ⟨rfl, fun k hk => (List.getElem?_set_ne hk.symm).symm,
      Span.plainAt_iff.mpr (by simp [hlines]), Span.plainAt_iff.mpr (by simp [hothers])⟩
  have hout : ¬ Span.InBody ⟨"B", 2, 4⟩ 1 := by simp [Span.InBody, Span.bodyStart]
  refine ⟨by decide, by decide, ?_⟩
  exact (routines_edit settings "input" 1 lines others hedit).2 1 _ rfl hout

end FileReport
end CalleeSaved
