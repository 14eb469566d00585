import CalleeSaved.Proofs.Usage.Status
import Mathlib.Data.List.Induction

/-!
# Usages that are kept up to date

A usage can be fed single lines, run over whole bodies and reset, in any order.  This module says
what it then holds, by the lines alone.

**Lines.**  `recent` are the lines that some steps read since the last of them that started from
nothing.

**Step.**  `recent_append`: a step adds its lines to the recent ones, or replaces them.
`after_ofLines`: the usage goes along.

**Run.**  `afterAll_eq_ofLines`: the usage is the sum of the recent lines.  `answers_eq`: a run
returns the sum of its own lines.

**Result.**  `afterAll_exact`.
-/

namespace CalleeSaved
namespace Usage

namespace Step

/-- The step starts from nothing. -/
def clears : Step → Bool
  | feed _ => false
  | run _ => true
  | reset => true

/-- The lines that a step reads. -/
def lines : Step → List Text
  | feed text => [text]
  | run lines => lines
  | reset => []

/-- The body that a step runs over. -/
def body? : Step → Option (List Text)
  | run lines => some lines
  | _ => none

end Step

/-- The lines that some steps read, from the last step on that started from nothing. -/
def recent : List Step → List Text
  | [] => []
  | step :: rest =>
      if rest.any Step.clears then recent rest else (step :: rest).flatMap Step.lines

/-- What the runs among some steps return, for a usage that the steps start from. -/
def answers (usage : Usage) : List Step → List Usage
  | [] => []
  | step :: rest =>
      (step.body?.map fun _ => usage.after step).toList ++ answers (usage.after step) rest

section OneStep

/-- A step that starts from nothing replaces the recent lines; any other step adds to them. -/
theorem recent_append
    (steps : List Step)
    (step : Step) :
    recent (steps ++ [step]) = if step.clears then step.lines else recent steps ++ step.lines := by
  induction steps with
  | nil =>
      cases step <;> simp [recent, Step.clears, Step.lines]
  | cons first rest ih =>
      rw [List.cons_append, recent, recent, ih, List.any_append, List.any_cons, List.any_nil,
        Bool.or_false]
      cases step.clears with
      | true =>
          simp
      | false =>
          cases rest.any Step.clears <;> simp

theorem ofLines_append
    (lines : List Text)
    (text : Text) :
    ofLines (lines ++ [text]) = (ofLines lines).feed text := by
  simp [ofLines]

theorem after_ofLines
    (lines : List Text)
    (step : Step) :
    (ofLines lines).after step =
      ofLines (if step.clears then step.lines else lines ++ step.lines) := by
  cases step with
  | feed text =>
      exact (ofLines_append lines text).symm
  | run body =>
      rfl
  | reset =>
      rfl

end OneStep

section ManySteps

theorem afterAll_append
    (steps : List Step)
    (step : Step) :
    afterAll (steps ++ [step]) = (afterAll steps).after step := by
  simp [afterAll]

/-- What is kept up to date is the sum of the recent lines. -/
theorem afterAll_eq_ofLines
    (steps : List Step) :
    afterAll steps = ofLines (recent steps) := by
  induction steps using List.reverseRecOn with
  | nil =>
      rfl
  | append_singleton steps step ih =>
      rw [afterAll_append, ih, after_ofLines, recent_append]

/-- Each run returns the sum of its lines, whatever the usage was before. -/
theorem answers_eq
    (steps : List Step)
    (usage : Usage) :
    answers usage steps = (steps.filterMap Step.body?).map ofLines := by
  induction steps generalizing usage with
  | nil =>
      rfl
  | cons step rest ih =>
      rw [answers, ih]
      cases step <;> rfl

end ManySteps

/-- **Usages kept up to date.**  After any steps, the usage has as touched what a recent line names
or writes, as modified what a recent line writes, where bulk saves count for neither, and as saved
what a recent bulk save names.  So what is modified is touched.  Each run returns the usage of its
own lines, whatever came before. -/
theorem afterAll_exact
    (steps : List Step) :
    (∀ r : Register,
      (r ∈ (afterAll steps).touched ↔ ∃ text ∈ recent steps, Uses text r) ∧
      (r ∈ (afterAll steps).modified ↔ ∃ text ∈ recent steps, Writes text r) ∧
      (r ∈ (afterAll steps).saved ↔ ∃ text ∈ recent steps, Saves text r) ∧
      (r ∈ (afterAll steps).modified → r ∈ (afterAll steps).touched)) ∧
    ∀ usage : Usage, answers usage steps = (steps.filterMap Step.body?).map ofLines := by
  refine ⟨fun r => ?_, answers_eq steps⟩
  rw [afterAll_eq_ofLines]
  exact
    ⟨mem_touched_ofLines, mem_modified_ofLines, mem_saved_ofLines, modified_subset_touched⟩

/-- A line and a run are followed by a reset and by a second run, which is fed one more line.  Only
the second run and that line count, and neither run feels what came before it. -/
theorem afterAll_exact_second_run :
    let body := ["movem.l d3,-(sp)".toList, "move.l d1,d3".toList]
    let steps :=
      [Step.feed "clr.l d2".toList, .run ["clr.l d5".toList], .reset, .run body,
        .feed "clr.l d4".toList]
    recent steps = body ++ ["clr.l d4".toList] ∧
      .d 2 ∉ (afterAll steps).modified ∧ .d 5 ∉ (afterAll steps).modified ∧
      .d 3 ∈ (afterAll steps).touched ∧ .d 3 ∈ (afterAll steps).saved ∧
      answers ∅ steps = [ofLines ["clr.l d5".toList], ofLines body] := by
  intro body steps
  obtain ⟨hsets, hanswers⟩ := afterAll_exact steps
  obtain ⟨-, hmodified, hsaved, hsubset⟩ := hsets (.d 3)
  have hrecent : recent steps = body ++ ["clr.l d4".toList] := by decide
  have hwrites : .d 3 ∈ (afterAll steps).modified :=
    hmodified.mpr ⟨"move.l d1,d3".toList, by decide, _, rfl, by decide, by decide⟩
  have hsaves : .d 3 ∈ (afterAll steps).saved :=
    hsaved.mpr ⟨"movem.l d3,-(sp)".toList, by decide, _, rfl, by decide, by decide⟩
  exact ⟨hrecent, by decide, by decide, hsubset hwrites, hsaves, hanswers ∅⟩

end Usage
end CalleeSaved
