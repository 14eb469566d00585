import CalleeSaved.Proofs.Clobber.Sites
import CalleeSaved.Routine.Caption
import CalleeSaved.Text.Lines

/-!
# The suggested save pattern

A diagnostic suggests a pair of bulk transfers that preserves the registers of a family.  Put into
any body, at any two places, the pair does what it promises.

**Lines.**  `lines_savePattern`: the pattern has three lines, the outer two of which are the pair.
`ofLine_saveLine` and `ofLine_restoreLine`: what the pair does to registers.  The restore touches
and modifies what the save saves, and neither does anything else.

**Bodies.**  `mem_part_patch_iff`: the pair adds its own usage to that of the body and no more.

**Result.**  `savePattern_works`.
-/

namespace CalleeSaved

/-- The status of a register looks at no other register. -/
theorem Usage.status_congr
    {u v : Usage}
    {r : Register}
    (htouched : r ∈ u.touched ↔ r ∈ v.touched)
    (hmodified : r ∈ u.modified ↔ r ∈ v.modified)
    (hsaved : r ∈ u.saved ↔ r ∈ v.saved) :
    u.status r = v.status r := by
  simp only [RegisterSet.mem_iff_contains, ← Bool.eq_iff_iff] at htouched hmodified hsaved
  rw [status, status, htouched, hmodified, hsaved]

namespace Caption

section PatternLines

theorem mem_preserved_iff
    {f : Family}
    {r : Register} :
    r ∈ preserved f ↔ r.family = f ∧ r.isPreserved = true := by
  simp [preserved, Register.ofFamily, Register.mem_all, and_comm]

theorem lines_savePattern
    (f : Family) :
    Text.lines (savePattern f).toList = [saveLine f, "    ...".toList, restoreLine f] := by
  have hsave : '\n' ∉ saveLine f := by cases f <;> decide
  have hdots : '\n' ∉ "    ...".toList := by decide
  have hrestore : '\n' ∉ restoreLine f := by cases f <;> decide
  have htext :
      (savePattern f).toList =
        saveLine f ++ '\n' :: ("    ...".toList ++ '\n' :: restoreLine f) := by
    simp [savePattern]
  rw [Text.lines, htext, List.splitOn_append_cons_self_of_not_mem hsave,
    List.splitOn_append_cons_self_of_not_mem hdots, List.splitOn_eq_singleton hrestore]

theorem ofLine_saveLine
    (f : Family) :
    Usage.ofLine (saveLine f) = ⟨∅, ∅, preserved f⟩ := by
  cases f <;> decide

theorem ofLine_restoreLine
    (f : Family) :
    Usage.ofLine (restoreLine f) = ⟨preserved f, preserved f, ∅⟩ := by
  cases f <;> decide

end PatternLines

section PatchedBodies

/-- A body with the two lines of the pattern put in at two places. -/
def patch (f : Family) (before between after : List Text) : List Text :=
  before ++ [saveLine f] ++ between ++ [restoreLine f] ++ after

theorem mem_part_patch_iff
    (part : Usage → RegisterSet)
    (hempty : part ∅ = ∅)
    (hunion : ∀ u v, part (u ∪ v) = part u ∪ part v)
    {f : Family}
    {before between after : List Text}
    {r : Register} :
    r ∈ part (Usage.ofLines (patch f before between after)) ↔
      r ∈ part (Usage.ofLine (saveLine f)) ∨ r ∈ part (Usage.ofLine (restoreLine f)) ∨
        r ∈ part (Usage.ofLines (before ++ between ++ after)) := by
  have hfront :
      Usage.ofLines (patch f before between after) =
        Usage.ofLines (saveLine f :: restoreLine f :: (before ++ between ++ after)) := by
    refine Usage.ofLines_congr fun text => ?_
    simp only [patch, List.mem_append, List.mem_cons, List.not_mem_nil, or_false]
    exact Iff.of_eq (by ac_rfl)
  rw [hfront]
  simp only [Usage.mem_part_ofLines part hempty hunion, List.mem_cons, exists_eq_or_imp]

theorem mem_touched_patch_iff
    {f : Family}
    {before between after : List Text}
    {r : Register} :
    r ∈ (Usage.ofLines (patch f before between after)).touched ↔
      r ∈ preserved f ∨ r ∈ (Usage.ofLines (before ++ between ++ after)).touched := by
  simp [mem_part_patch_iff Usage.touched Usage.touched_empty Usage.touched_union,
    ofLine_saveLine, ofLine_restoreLine]

theorem mem_modified_patch_iff
    {f : Family}
    {before between after : List Text}
    {r : Register} :
    r ∈ (Usage.ofLines (patch f before between after)).modified ↔
      r ∈ preserved f ∨ r ∈ (Usage.ofLines (before ++ between ++ after)).modified := by
  simp [mem_part_patch_iff Usage.modified Usage.modified_empty Usage.modified_union,
    ofLine_saveLine, ofLine_restoreLine]

theorem mem_saved_patch_iff
    {f : Family}
    {before between after : List Text}
    {r : Register} :
    r ∈ (Usage.ofLines (patch f before between after)).saved ↔
      r ∈ preserved f ∨ r ∈ (Usage.ofLines (before ++ between ++ after)).saved := by
  simp [mem_part_patch_iff Usage.saved Usage.saved_empty Usage.saved_union,
    ofLine_saveLine, ofLine_restoreLine]

theorem status_patch
    (f : Family)
    (before between after : List Text)
    (r : Register) :
    (Verdict.ofBody (patch f before between after)).status r =
      if r.family = f ∧ r.isPreserved = true then .saved
      else (Verdict.ofBody (before ++ between ++ after)).status r := by
  rw [Verdict.status_ofBody, Verdict.status_ofBody]
  split
  · next hkept =>
      have hmem : r ∈ preserved f := mem_preserved_iff.mpr hkept
      exact Usage.status_eq_saved_iff.mpr
        ⟨mem_touched_patch_iff.mpr (Or.inl hmem), hkept.2, mem_saved_patch_iff.mpr (Or.inl hmem)⟩
  · next hother =>
      have hnot : r ∉ preserved f := fun h => hother (mem_preserved_iff.mp h)
      refine Usage.status_congr ?_ ?_ ?_
      · simp [mem_touched_patch_iff, hnot]
      · simp [mem_modified_patch_iff, hnot]
      · simp [mem_saved_patch_iff, hnot]

theorem family_ne_of_mem_findAll
    {f : Family}
    {before between after body : List Text}
    {line : Int}
    {clobber : Clobber}
    (h : clobber ∈
      Clobber.findAll (Usage.ofLines (patch f before between after)) line body) :
    clobber.register.family ≠ f := by
  rintro hfamily
  obtain ⟨-, text, -, -, hregister⟩ := Clobber.mem_findAll_iff.mp h
  have hunsafe : (Usage.ofLines (patch f before between after)).isUnsafe clobber.register = true := by
    unfold Clobber.register? at hregister
    split at hregister
    · simp at hregister
    · exact List.find?_some hregister
  obtain ⟨hpreserved, -, hsaved⟩ := Usage.isUnsafe_iff.mp hunsafe
  exact hsaved (mem_saved_patch_iff.mpr (Or.inl (mem_preserved_iff.mpr ⟨hfamily, hpreserved⟩)))

end PatchedBodies

/-- **The pattern works.**  The first and the last line of the pattern for a family, put into any body
at any two places, in this order, make every preserved register of the family saved.  The statuses of
all other registers stay, and no line of the new body is reported for a register of the family. -/
theorem savePattern_works
    (f : Family) :
    ∃ save restore : Text,
      (Text.lines (savePattern f).toList).head? = some save ∧
      (Text.lines (savePattern f).toList).getLast? = some restore ∧
      ∀ (p q r : List Text),
        let body := p ++ [save] ++ q ++ [restore] ++ r
        (∀ reg : Register,
          (Verdict.ofBody body).status reg =
            if reg.family = f ∧ reg.isPreserved = true then .saved
            else (Verdict.ofBody (p ++ q ++ r)).status reg) ∧
        ∀ line : Int, ∀ clobber ∈ Clobber.findAll (Verdict.ofBody body).usage line body,
          clobber.register.family ≠ f := by
  refine ⟨saveLine f, restoreLine f, ?_, ?_, ?_⟩
  · rw [lines_savePattern]
    rfl
  · rw [lines_savePattern]
    rfl
  · intro p q r body
    exact ⟨status_patch f p q r, fun line clobber hclobber => family_ne_of_mem_findAll hclobber⟩

/-- A body that clobbers a register of each family is left with one clobber, whose register is of the
other family. -/
theorem savePattern_works_address :
    ∃ save restore : Text,
      (Text.lines (savePattern .address).toList).head? = some save ∧
      (Text.lines (savePattern .address).toList).getLast? = some restore ∧
      let body := [] ++ [save] ++ [" lea (a0),a3".toList] ++ [restore] ++ [" clr.l d4".toList]
      (Verdict.ofBody body).status (.a 3) = .saved ∧
        (Verdict.ofBody body).status (.d 4) = .clobbered ∧
        (⟨3, .d 4⟩ : Clobber) ∈ Clobber.findAll (Verdict.ofBody body).usage 0 body ∧
        (Register.d 4).family ≠ .address := by
  obtain ⟨save, restore, hsave, hrestore, hworks⟩ := savePattern_works .address
  obtain ⟨hstatus, hclobbers⟩ := hworks [] [" lea (a0),a3".toList] [" clr.l d4".toList]
  rw [lines_savePattern] at hsave hrestore
  obtain rfl : saveLine .address = save := Option.some.inj hsave
  obtain rfl : restoreLine .address = restore := Option.some.inj hrestore
  have hmem : (⟨3, .d 4⟩ : Clobber) ∈
      Clobber.findAll
        (Verdict.ofBody (patch .address [] [" lea (a0),a3".toList] [" clr.l d4".toList])).usage 0
        (patch .address [] [" lea (a0),a3".toList] [" clr.l d4".toList]) := by
    decide
  refine ⟨_, _, by rw [lines_savePattern]; rfl, by rw [lines_savePattern]; rfl, ?_, ?_, hmem, ?_⟩
  · rw [hstatus]
    decide
  · rw [hstatus]
    decide
  · exact hclobbers 0 ⟨3, .d 4⟩ hmem

end Caption
end CalleeSaved
