import CalleeSaved.Proofs.Span.Closure
import CalleeSaved.Routine.Report

/-!
# Turning on shared entries

With shared entries a label line no longer holds up a body.  What ended on a return before ends there
still, and what was held up by a label line, or by the end of the file, reaches at least as far.

**Scans.**  `Reaches.shared` and `Clear.shared`: a return that is reachable stays so, and a body goes
on past every line that it went past.

**Ends.**  `Ends.shared`: a body that ends on a return keeps its end.  `Ends.le_shared`: no body gets
shorter.

**Result.**  `routines_shared`.
-/

namespace CalleeSaved

namespace Span

section Scans

variable
  {share : Bool}
  {lines : List Text}
  {i : Nat}

theorem Reaches.shared
    (h : Reaches share lines i) :
    Reaches true lines i := by
  rcases h with ⟨k, hik, hret, -⟩
  exact ⟨k, hik, hret, by simp⟩

theorem Passes.shared
    (h : Passes share lines i) :
    Passes true lines i :=
  ⟨h.1, by simp⟩

theorem Clear.shared
    {k : Nat}
    (h : Clear share lines i k) :
    Clear true lines i k :=
  fun m him hmk => (h m him hmk).shared

/-- A body that ends on a return ends there with shared entries, too. -/
theorem Ends.shared
    {stop : Int}
    {k : Nat}
    {name : String}
    (hends : Ends share lines i stop)
    (hlabel : LabelAt lines i name)
    (hstop : stop = k)
    (hret : ReturnAt lines k) :
    Ends true lines i stop := by
  cases hends with
  | atReturn after ret clear =>
      exact .atReturn after ret clear.shared
  | beforeLabel mode after label clear =>
      exact absurd hret (not_returnAt_of_clear hlabel clear (by omega) (by omega))
  | atEnd clear =>
      have hlast := hlabel.lt_length
      exact absurd hret (not_returnAt_of_clear hlabel clear (by omega) (by omega))

/-- With shared entries a body reaches at least as far. -/
theorem Ends.le_shared
    {stop stop' : Int}
    (hends : Ends share lines i stop)
    (hshared : Ends true lines i stop')
    (hi : i < lines.length) :
    stop ≤ stop' := by
  obtain ⟨p, hip, hp, hclear, -, hret, hother⟩ := hends.exists_barrier hi
  obtain ⟨q, hiq, hq, hclear', hblock', hret', hother'⟩ := hshared.exists_barrier hi
  have hpq : p ≤ q := by
    by_contra hqp
    exact hblock' (by omega) (hclear q hiq (by omega)).shared
  by_cases hreturn : ReturnAt lines p
  · obtain rfl : p = q := by
      by_contra hne
      exact (hclear' p hip (by omega)).1 hreturn
    exact Int.le_of_eq ((hret hreturn).trans (hret' hreturn).symm)
  · rw [hother hreturn]
    by_cases hreturn' : ReturnAt lines q
    · rw [hret' hreturn']
      omega
    · rw [hother' hreturn']
      omega

end Scans

section Routines

variable
  {settings shared : Settings}
  {lines : List Text}
  {span : Span}
  (hmode : shared.shareEntryLabels = true)
  (hspan : span ∈ findAll settings lines)
include hmode hspan

theorem mem_findAll_shared
    (hreturn : span.EndsOnReturn lines) :
    span ∈ findAll shared lines := by
  obtain ⟨i, hstart, hlabel, ⟨j, hj, hreach⟩, hends⟩ := mem_findAll_iff.mp hspan
  obtain ⟨hstop, hret⟩ := hreturn
  refine mem_findAll_iff.mpr ⟨i, hstart, hlabel, ⟨j, hj, ?_⟩, ?_⟩
  · rw [hmode]
    exact hreach.shared
  · rw [hmode]
    exact hends.shared hlabel (Int.toNat_of_nonneg hstop).symm hret

theorem exists_longer_shared :
    ∃ other ∈ findAll shared lines,
      other.label = span.label ∧ other.start = span.start ∧ span.stop ≤ other.stop := by
  obtain ⟨i, hstart, hlabel, ⟨j, hj, hreach⟩, hends⟩ := mem_findAll_iff.mp hspan
  have hreach' : Reaches shared.shareEntryLabels lines j := hmode ▸ hreach.shared
  obtain ⟨other, hother, hstart'⟩ := (exists_start_iff hlabel).mpr ⟨j, hj, hreach'⟩
  obtain ⟨k, hk, hlabel', -, hends'⟩ := mem_findAll_iff.mp hother
  obtain rfl : k = i := by omega
  rw [hmode] at hends'
  refine ⟨other, hother, hlabel'.unique hlabel, by rw [hstart, hstart'], ?_⟩
  exact hends.le_shared hends' hlabel.lt_length

end Routines
end Span

namespace FileReport

/-- **Shared entries.**  Every routine that ends on a return is found with shared entries, too, with
the same label, first and last line, and it has the same report: verdict, usage and clobbers.  Every
other routine is found with the same label line, and it reaches at least as far. -/
theorem routines_shared
    (settings : Settings)
    (path : Script)
    (lines : List Text) :
    let alone := { settings with shareEntryLabels := false }
    let shared := { settings with shareEntryLabels := true }
    (∀ span ∈ Span.findAll alone lines, span.EndsOnReturn lines →
      span ∈ Span.findAll shared lines) ∧
    (∀ routine ∈ (ofLines alone path lines).routines, routine.span.EndsOnReturn lines →
      routine ∈ (ofLines shared path lines).routines) ∧
    (∀ span ∈ Span.findAll alone lines, ¬ span.EndsOnReturn lines →
      ∃ other ∈ Span.findAll shared lines,
        other.label = span.label ∧ other.start = span.start ∧ span.stop ≤ other.stop) := by
  intro alone shared
  refine ⟨fun span hspan => Span.mem_findAll_shared rfl hspan, ?_,
    fun span hspan _ => Span.exists_longer_shared rfl hspan⟩
  intro routine hroutine hreturn
  obtain ⟨span, hspan, rfl⟩ := List.mem_map.mp hroutine
  exact List.mem_map_of_mem (Span.mem_findAll_shared rfl hspan hreturn)

/-- The first routine of this file is confirmed by its repeated name and held up by the second label
line.  With shared entries it goes on to the return of the second routine, which stays as it is. -/
theorem routines_shared_repeated_label :
    let lines :=
      ["A:".toList, " nop".toList, "B:".toList, " clr.l d2".toList, " rts".toList, "A:".toList,
        " rte".toList]
    Span.findAll {} lines = [⟨"A", 0, 1⟩, ⟨"B", 2, 4⟩, ⟨"A", 5, 6⟩] ∧
      RoutineReport.ofSpan lines ⟨"B", 2, 4⟩ ∈
        (ofLines { shareEntryLabels := true } "input" lines).routines ∧
      ∃ other ∈ Span.findAll { shareEntryLabels := true } lines,
        other.label = "A" ∧ other.start = 0 ∧ 1 ≤ other.stop := by
  intro lines
  have hspans : Span.findAll {} lines = [⟨"A", 0, 1⟩, ⟨"B", 2, 4⟩, ⟨"A", 5, 6⟩] := by decide
  obtain ⟨-, hclosed, hopen⟩ := routines_shared {} "input" lines
  have hinner : Span.EndsOnReturn lines ⟨"B", 2, 4⟩ := by decide
  have houter : ¬ Span.EndsOnReturn lines ⟨"A", 0, 1⟩ := by decide
  refine ⟨hspans, hclosed _ (List.mem_map_of_mem ?_) hinner, hopen ⟨"A", 0, 1⟩ ?_ houter⟩
  · rw [hspans]
    simp
  · rw [hspans]
    simp

end FileReport
end CalleeSaved
