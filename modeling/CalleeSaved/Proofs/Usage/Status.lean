import CalleeSaved.Routine.Verdict
import Mathlib.Tactic.Tauto

/-!
# Statuses from the lines of a body

A body is summed up line by line, and a status is read off the sum.  This module says which status
a register has in terms of the lines alone.

**Lines.**  `Writes`, `Uses` and `Saves` say what one line does to a register.

**Sum.**  `mem_foldl_feed`: each part of the sum holds what some line adds to it, whatever the order
of the lines.  So what is modified is touched (`modified_subset_touched`), and the sum depends only
on the set of lines (`ofLines_congr`), of which those that use no register can be left out
(`ofLines_eq_of_effective`).

**Results.**
* `isUnsafe_iff_status`: a register is unsafe under the usage of a body exactly when its status
  says so.
* `status_exact`: the status of every register by the lines of the body.
-/

namespace CalleeSaved
namespace Usage

@[simp] theorem touched_empty : (∅ : Usage).touched = ∅ := rfl

@[simp] theorem modified_empty : (∅ : Usage).modified = ∅ := rfl

@[simp] theorem saved_empty : (∅ : Usage).saved = ∅ := rfl

@[simp] theorem touched_union (u v : Usage) : (u ∪ v).touched = u.touched ∪ v.touched := rfl

@[simp] theorem modified_union (u v : Usage) : (u ∪ v).modified = u.modified ∪ v.modified := rfl

@[simp] theorem saved_union (u v : Usage) : (u ∪ v).saved = u.saved ∪ v.saved := rfl

section UsageOfLine

/-- The line holds an instruction that is no bulk save and that writes the register. -/
def Writes (text : Text) (r : Register) : Prop :=
  ∃ insn, Instruction.ofText? text = some insn ∧ insn.isSave = false ∧ r ∈ insn.written

/-- The line holds an instruction that is no bulk save and that names or writes the register. -/
def Uses (text : Text) (r : Register) : Prop :=
  ∃ insn, Instruction.ofText? text = some insn ∧ insn.isSave = false ∧
    (r ∈ insn.referenced ∨ r ∈ insn.written)

/-- The line holds a bulk save of the register. -/
def Saves (text : Text) (r : Register) : Prop :=
  ∃ insn, Instruction.ofText? text = some insn ∧ insn.isSave = true ∧ r ∈ insn.saved

theorem Writes.uses
    {text : Text}
    {r : Register}
    (h : Writes text r) :
    Uses text r := by
  obtain ⟨insn, hinsn, hsave, hwritten⟩ := h
  exact ⟨insn, hinsn, hsave, Or.inr hwritten⟩

theorem mem_part_ofLine
    (part : Usage → RegisterSet)
    (hpart : part ∅ = ∅)
    {text : Text}
    {r : Register} :
    r ∈ part (ofLine text) ↔
      ∃ insn, Instruction.ofText? text = some insn ∧ r ∈ part (ofInstruction insn) := by
  unfold ofLine
  cases Instruction.ofText? text with
  | none =>
      simp [hpart]
  | some insn =>
      simp

theorem mem_touched_ofLine
    {text : Text}
    {r : Register} :
    r ∈ (ofLine text).touched ↔ Uses text r := by
  rw [mem_part_ofLine touched touched_empty, Uses]
  refine exists_congr fun insn => and_congr_right fun _ => ?_
  cases hsave : insn.isSave <;> simp [ofInstruction, hsave]

theorem mem_modified_ofLine
    {text : Text}
    {r : Register} :
    r ∈ (ofLine text).modified ↔ Writes text r := by
  rw [mem_part_ofLine modified modified_empty, Writes]
  refine exists_congr fun insn => and_congr_right fun _ => ?_
  cases hsave : insn.isSave <;> simp [ofInstruction, hsave]

theorem mem_saved_ofLine
    {text : Text}
    {r : Register} :
    r ∈ (ofLine text).saved ↔ Saves text r := by
  rw [mem_part_ofLine saved saved_empty, Saves]
  refine exists_congr fun insn => and_congr_right fun _ => ?_
  cases hsave : insn.isSave <;> simp [ofInstruction, hsave]

end UsageOfLine

section UsageOfBody

/-- Each part of a usage that goes along with union holds, after some lines, what it held before and
what some line adds to it. -/
theorem mem_foldl_feed
    (part : Usage → RegisterSet)
    (hpart : ∀ u v, part (u ∪ v) = part u ∪ part v)
    {r : Register}
    (lines : List Text)
    (usage : Usage) :
    r ∈ part (lines.foldl feed usage) ↔
      r ∈ part usage ∨ ∃ text ∈ lines, r ∈ part (ofLine text) := by
  induction lines generalizing usage with
  | nil =>
      simp
  | cons text rest ih =>
      rw [List.foldl_cons, ih, feed, hpart, RegisterSet.mem_union]
      simp only [List.mem_cons, exists_eq_or_imp]
      exact or_assoc

theorem mem_part_ofLines
    (part : Usage → RegisterSet)
    (hempty : part ∅ = ∅)
    (hunion : ∀ u v, part (u ∪ v) = part u ∪ part v)
    {r : Register}
    {lines : List Text} :
    r ∈ part (ofLines lines) ↔ ∃ text ∈ lines, r ∈ part (ofLine text) := by
  rw [ofLines, mem_foldl_feed part hunion, hempty]
  simp

theorem mem_touched_ofLines
    {lines : List Text}
    {r : Register} :
    r ∈ (ofLines lines).touched ↔ ∃ text ∈ lines, Uses text r := by
  simp [ofLines, mem_foldl_feed touched touched_union, mem_touched_ofLine]

theorem mem_modified_ofLines
    {lines : List Text}
    {r : Register} :
    r ∈ (ofLines lines).modified ↔ ∃ text ∈ lines, Writes text r := by
  simp [ofLines, mem_foldl_feed modified modified_union, mem_modified_ofLine]

theorem mem_saved_ofLines
    {lines : List Text}
    {r : Register} :
    r ∈ (ofLines lines).saved ↔ ∃ text ∈ lines, Saves text r := by
  simp [ofLines, mem_foldl_feed saved saved_union, mem_saved_ofLine]

/-- Every register that a body modifies is touched by it. -/
theorem modified_subset_touched
    {lines : List Text}
    {r : Register}
    (h : r ∈ (ofLines lines).modified) :
    r ∈ (ofLines lines).touched := by
  obtain ⟨text, htext, hwrites⟩ := mem_modified_ofLines.mp h
  exact mem_touched_ofLines.mpr ⟨text, htext, hwrites.uses⟩

/-- The usage of a body depends only on the set of those of its lines that use registers. -/
theorem ofLines_eq_of_effective
    {lines other : List Text}
    (hsame : ∀ text, ofLine text ≠ ∅ → (text ∈ other ↔ text ∈ lines)) :
    ofLines other = ofLines lines := by
  have hpart (part : Usage → RegisterSet) (hempty : part ∅ = ∅)
      (hunion : ∀ u v, part (u ∪ v) = part u ∪ part v) :
      part (ofLines other) = part (ofLines lines) := by
    refine RegisterSet.ext fun r => ?_
    rw [mem_part_ofLines part hempty hunion, mem_part_ofLines part hempty hunion]
    refine exists_congr fun text => and_congr_left fun hmem => hsame text ?_
    intro hinert
    rw [hinert, hempty] at hmem
    exact RegisterSet.not_mem_empty r hmem
  calc ofLines other
      = ⟨(ofLines other).touched, (ofLines other).modified, (ofLines other).saved⟩ := rfl
    _ = ⟨(ofLines lines).touched, (ofLines lines).modified, (ofLines lines).saved⟩ := by
        rw [hpart touched touched_empty touched_union, hpart modified modified_empty modified_union,
          hpart saved saved_empty saved_union]

/-- The usage of a body depends only on the set of its lines. -/
theorem ofLines_congr
    {lines other : List Text}
    (hsame : ∀ text, text ∈ other ↔ text ∈ lines) :
    ofLines other = ofLines lines :=
  ofLines_eq_of_effective fun text _ => hsame text

end UsageOfBody

section Statuses

theorem status_eq_clobbered_iff
    {usage : Usage}
    {r : Register} :
    usage.status r = .clobbered ↔
      r ∈ usage.touched ∧ r.isPreserved = true ∧ r ∉ usage.saved ∧ r ∈ usage.modified := by
  simp only [status, Register.isPreserved, RegisterSet.mem_iff_contains]
  cases usage.touched.contains r <;> cases r.isScratch <;>
    cases usage.saved.contains r <;> cases usage.modified.contains r <;> simp

theorem status_eq_saved_iff
    {usage : Usage}
    {r : Register} :
    usage.status r = .saved ↔
      r ∈ usage.touched ∧ r.isPreserved = true ∧ r ∈ usage.saved := by
  simp only [status, Register.isPreserved, RegisterSet.mem_iff_contains]
  cases usage.touched.contains r <;> cases r.isScratch <;>
    cases usage.saved.contains r <;> cases usage.modified.contains r <;> simp

theorem status_eq_scratch_iff
    {usage : Usage}
    {r : Register} :
    usage.status r = .scratch ↔ r ∈ usage.touched ∧ r.isScratch = true := by
  simp only [status, RegisterSet.mem_iff_contains]
  cases usage.touched.contains r <;> cases r.isScratch <;>
    cases usage.saved.contains r <;> cases usage.modified.contains r <;> simp

theorem isUnsafe_iff
    {usage : Usage}
    {r : Register} :
    usage.isUnsafe r = true ↔
      r.isPreserved = true ∧ r ∈ usage.modified ∧ r ∉ usage.saved := by
  simp [isUnsafe, RegisterSet.mem_iff_contains, and_assoc]

/-- The two judgements of a body agree: a register is unsafe exactly when its status is. -/
theorem isUnsafe_iff_status
    {lines : List Text}
    {r : Register} :
    (ofLines lines).isUnsafe r = true ↔ (ofLines lines).status r = .clobbered := by
  rw [isUnsafe_iff, status_eq_clobbered_iff]
  constructor
  · rintro ⟨hpreserved, hmodified, hsaved⟩
    exact ⟨modified_subset_touched hmodified, hpreserved, hsaved, hmodified⟩
  · rintro ⟨-, hpreserved, hsaved, hmodified⟩
    exact ⟨hpreserved, hmodified, hsaved⟩

end Statuses

end Usage

namespace Body

open Usage

/-- The register is preserved, some line other than a bulk save writes it, and no bulk save names
it. -/
def Clobbers (lines : List Text) (r : Register) : Prop :=
  r.isPreserved = true ∧ (∃ text ∈ lines, Writes text r) ∧ ¬ ∃ text ∈ lines, Saves text r

/-- The register is preserved, some line other than a bulk save names or writes it, and some bulk
save names it. -/
def Keeps (lines : List Text) (r : Register) : Prop :=
  r.isPreserved = true ∧ (∃ text ∈ lines, Uses text r) ∧ ∃ text ∈ lines, Saves text r

/-- The register is scratch, and some line other than a bulk save names or writes it. -/
def Spends (lines : List Text) (r : Register) : Prop :=
  r.isScratch = true ∧ ∃ text ∈ lines, Uses text r

theorem status_clobbered_iff
    {lines : List Text}
    {r : Register} :
    (Verdict.ofBody lines).status r = .clobbered ↔ Clobbers lines r := by
  rw [Verdict.status_ofBody, ← isUnsafe_iff_status, isUnsafe_iff, mem_modified_ofLines,
    mem_saved_ofLines, Clobbers]

theorem status_saved_iff
    {lines : List Text}
    {r : Register} :
    (Verdict.ofBody lines).status r = .saved ↔ Keeps lines r := by
  rw [Verdict.status_ofBody, status_eq_saved_iff, mem_touched_ofLines, mem_saved_ofLines, Keeps]
  exact and_left_comm

theorem status_scratch_iff
    {lines : List Text}
    {r : Register} :
    (Verdict.ofBody lines).status r = .scratch ↔ Spends lines r := by
  rw [Verdict.status_ofBody, status_eq_scratch_iff, mem_touched_ofLines, Spends]
  exact and_comm

theorem status_untouched_iff
    {lines : List Text}
    {r : Register} :
    (Verdict.ofBody lines).status r = .untouched ↔
      ¬ Clobbers lines r ∧ ¬ Keeps lines r ∧ ¬ Spends lines r := by
  rw [← status_clobbered_iff, ← status_saved_iff, ← status_scratch_iff]
  cases (Verdict.ofBody lines).status r <;> simp

/-- **Statuses of a body.**  A register is unsafe exactly when the body clobbers it, saved exactly
when the body keeps it, scratch exactly when the body spends it, and untouched in every other case.
So the verdict depends only on the set of lines: neither their order nor their repetition counts. -/
theorem status_exact
    (lines : List Text) :
    (∀ r : Register,
      ((Verdict.ofBody lines).status r = .clobbered ↔ Clobbers lines r) ∧
      ((Verdict.ofBody lines).status r = .saved ↔ Keeps lines r) ∧
      ((Verdict.ofBody lines).status r = .scratch ↔ Spends lines r) ∧
      ((Verdict.ofBody lines).status r = .untouched ↔
        ¬ Clobbers lines r ∧ ¬ Keeps lines r ∧ ¬ Spends lines r)) ∧
    ∀ other : List Text,
      (∀ text, text ∈ other ↔ text ∈ lines) →
        Verdict.ofBody other = Verdict.ofBody lines := by
  constructor
  · intro r
    exact
      ⟨status_clobbered_iff, status_saved_iff, status_scratch_iff, status_untouched_iff⟩
  · intro other hsame
    exact congrArg Verdict.ofUsage (ofLines_congr hsame)

/-- A save after the write counts, and so do both when they are swapped and the write repeated. -/
theorem status_exact_late_save :
    Keeps ["move.l d0,d3".toList, "movem.l d3,-(sp)".toList] (.d 3) ∧
      Verdict.ofBody
          ["movem.l d3,-(sp)".toList, "move.l d0,d3".toList, "move.l d0,d3".toList] =
        Verdict.ofBody ["move.l d0,d3".toList, "movem.l d3,-(sp)".toList] := by
  have hexact := status_exact ["move.l d0,d3".toList, "movem.l d3,-(sp)".toList]
  refine ⟨(hexact.1 (.d 3)).2.1.mp (by decide), hexact.2 _ ?_⟩
  intro text
  simp only [List.mem_cons, List.not_mem_nil, or_false]
  tauto

end Body
end CalleeSaved
