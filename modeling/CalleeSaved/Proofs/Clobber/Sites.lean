import CalleeSaved.Proofs.Span.Location
import CalleeSaved.Proofs.Usage.Status
import CalleeSaved.Routine.Report

/-!
# Clobber sites

The lines of a body are judged twice: once all together, by the status of every register, and once
line by line, in search of the lines that clobber a register.  This module shows that the two
judgements agree.

**Search.**  `mem_findAll_iff`: the search reports a line for the first unsafe register that it
writes.  `findAll_ordered`: the reported lines increase.

**Sites.**  `Hit` says that a line of a file lies in the body of a routine and writes a register of
status unsafe.  `mem_clobbers_iff`: the reported lines of a routine, by status.

**Results.**
* `isClean_iff`: a verdict is clean exactly when no line is reported.
* `clobbers_exact`: the reported lines of every routine of a file.
-/

namespace CalleeSaved

/-- A bulk save writes nothing. -/
theorem Instruction.not_isSave_of_mem_written
    {insn : Instruction}
    {r : Register}
    (h : r ∈ insn.written) :
    insn.isSave = false := by
  unfold Instruction.written at h
  unfold Instruction.isSave
  cases haction : insn.action with
  | save registers =>
      simp [haction] at h
  | restore registers =>
      rfl
  | assign registers =>
      rfl

namespace Clobber

section FirstUnsafe

/-- The register is the first one of status unsafe among those that the instruction writes. -/
def FirstUnsafe (status : Register → Status) (insn : Instruction) (r : Register) : Prop :=
  ∃ before after, insn.written = before ++ r :: after ∧ status r = .clobbered ∧
    ∀ q ∈ before, status q ≠ .clobbered

theorem firstUnsafe_iff_find?
    {status : Register → Status}
    {insn : Instruction}
    {r : Register} :
    FirstUnsafe status insn r ↔
      insn.written.find? (fun q => decide (status q = .clobbered)) = some r := by
  rw [List.find?_eq_some_iff_append, FirstUnsafe]
  constructor
  · rintro ⟨before, after, hwritten, hstatus, hbefore⟩
    exact ⟨by simpa using hstatus, before, after, hwritten, by simpa using hbefore⟩
  · rintro ⟨hstatus, before, after, hwritten, hbefore⟩
    exact ⟨before, after, hwritten, by simpa using hstatus, by simpa using hbefore⟩

theorem exists_firstUnsafe_iff
    {status : Register → Status}
    {insn : Instruction} :
    (∃ r, FirstUnsafe status insn r) ↔ ∃ r ∈ insn.written, status r = .clobbered := by
  simp only [firstUnsafe_iff_find?, ← Option.isSome_iff_exists, List.find?_isSome,
    decide_eq_true_eq]

theorem FirstUnsafe.mem_written
    {status : Register → Status}
    {insn : Instruction}
    {r : Register}
    (h : FirstUnsafe status insn r) :
    r ∈ insn.written := by
  obtain ⟨before, after, hwritten, -, -⟩ := h
  rw [hwritten]
  exact List.mem_append_right before (List.mem_cons_self)

/-- The register that a line clobbers under the usage of a body, by the statuses of the body. -/
theorem register?_eq_some_iff
    {body : List Text}
    {text : Text}
    {r : Register} :
    register? (Usage.ofLines body) text = some r ↔
      ∃ insn, Instruction.ofText? text = some insn ∧ insn.isSave = false ∧
        FirstUnsafe (Verdict.ofBody body).status insn r := by
  have hjudge :
      (Usage.ofLines body).isUnsafe =
        fun q => decide ((Verdict.ofBody body).status q = .clobbered) := by
    funext q
    rw [Bool.eq_iff_iff, Usage.isUnsafe_iff_status, decide_eq_true_eq, Verdict.status_ofBody]
  unfold register?
  cases Instruction.ofText? text with
  | none =>
      simp
  | some insn =>
      rw [hjudge]
      simp only [Option.some.injEq, exists_eq_left', ← firstUnsafe_iff_find?]
      constructor
      · intro hfirst
        exact ⟨Instruction.not_isSave_of_mem_written hfirst.mem_written, hfirst⟩
      · rintro ⟨-, hfirst⟩
        exact hfirst

end FirstUnsafe

section Search

theorem mem_head_iff
    {usage : Usage}
    {line : Int}
    {text : Text}
    {clobber : Clobber} :
    clobber ∈ ((register? usage text).map (⟨line, ·⟩)).toList ↔
      clobber.line = line ∧ register? usage text = some clobber.register := by
  obtain ⟨site, r⟩ := clobber
  cases register? usage text <;> simp [eq_comm]

theorem mem_findAll_iff
    {usage : Usage}
    {line : Int}
    {body : List Text}
    {clobber : Clobber} :
    clobber ∈ findAll usage line body ↔
      ∃ (j : Nat) (text : Text), body[j]? = some text ∧ clobber.line = line + j ∧
        register? usage text = some clobber.register := by
  induction body generalizing line with
  | nil =>
      simp [findAll]
  | cons text rest ih =>
      rw [findAll, List.mem_append, mem_head_iff, ih]
      constructor
      · rintro (⟨hsite, hregister⟩ | ⟨j, other, hother, hsite, hregister⟩)
        · exact ⟨0, text, rfl, by simpa using hsite, hregister⟩
        · exact ⟨j + 1, other, hother, by omega, hregister⟩
      · rintro ⟨j, other, hother, hsite, hregister⟩
        cases j with
        | zero =>
            obtain rfl : text = other := by simpa using hother
            exact Or.inl ⟨by simpa using hsite, hregister⟩
        | succ j =>
            exact Or.inr ⟨j, other, hother, by omega, hregister⟩

theorem findAll_ordered
    (usage : Usage)
    (line : Int)
    (body : List Text) :
    (findAll usage line body).Pairwise (fun c d => c.line < d.line) := by
  induction body generalizing line with
  | nil =>
      exact List.Pairwise.nil
  | cons text rest ih =>
      rw [findAll, List.pairwise_append]
      refine ⟨?_, ih (line + 1), ?_⟩
      · cases register? usage text <;> simp
      · intro c hc d hd
        obtain ⟨hline, -⟩ := mem_head_iff.mp hc
        obtain ⟨j, -, -, hj, -⟩ := mem_findAll_iff.mp hd
        omega

/-- A line is reported at most once. -/
theorem eq_of_line_eq
    {usage : Usage}
    {line : Int}
    {body : List Text}
    {c d : Clobber}
    (hc : c ∈ findAll usage line body)
    (hd : d ∈ findAll usage line body)
    (hline : c.line = d.line) :
    c = d := by
  obtain ⟨j, text, htext, hj, hregister⟩ := mem_findAll_iff.mp hc
  obtain ⟨k, other, hother, hk, hregister'⟩ := mem_findAll_iff.mp hd
  obtain rfl : j = k := by omega
  obtain rfl : text = other := Option.some.inj (htext.symm.trans hother)
  have hsame : c.register = d.register :=
    Option.some.inj (hregister.symm.trans hregister')
  cases c
  cases d
  simp_all

/-- A verdict is clean exactly when the search of its body reports nothing. -/
theorem isClean_iff
    {body : List Text}
    {line : Int} :
    (Verdict.ofBody body).isClean = true ↔ findAll (Usage.ofLines body) line body = [] := by
  have hclean :
      (Verdict.ofBody body).isClean = true ↔
        ∀ r, (Verdict.ofBody body).status r ≠ .clobbered := by
    simp [Verdict.isClean, Verdict.clobbered, Verdict.registersWith, Register.mem_all]
  rw [hclean, List.eq_nil_iff_forall_not_mem]
  constructor
  · intro hnone clobber hmem
    obtain ⟨_, _, -, -, hregister⟩ := mem_findAll_iff.mp hmem
    obtain ⟨_, -, -, _, _, -, hstatus, -⟩ := register?_eq_some_iff.mp hregister
    exact hnone _ hstatus
  · intro hnone r hstatus
    obtain ⟨-, ⟨text, htext, insn, hinsn, hsave, hwritten⟩, -⟩ :=
      Body.status_clobbered_iff.mp hstatus
    obtain ⟨j, hj⟩ := List.mem_iff_getElem?.mp htext
    obtain ⟨q, hq⟩ := exists_firstUnsafe_iff.mpr ⟨r, hwritten, hstatus⟩
    exact hnone ⟨line + j, q⟩
      (mem_findAll_iff.mpr
        ⟨j, text, hj, rfl, register?_eq_some_iff.mpr ⟨insn, hinsn, hsave, hq⟩⟩)

end Search

end Clobber

/-- The line lies in the body of the routine and holds the instruction, which is no bulk save. -/
def Span.Holds (span : Span) (lines : List Text) (i : Int) (insn : Instruction) : Prop :=
  span.start + 1 ≤ i ∧ i ≤ span.stop ∧ insn.isSave = false ∧
    ∃ (k : Nat) (text : Text), i = k ∧ lines[k]? = some text ∧
      Instruction.ofText? text = some insn

theorem Span.Holds.exists_index
    {span : Span}
    {lines : List Text}
    {i : Int}
    {insn : Instruction}
    (h : span.Holds lines i insn) :
    ∃ k : Nat, i = k := by
  obtain ⟨-, -, -, k, -, hk, -⟩ := h
  exact ⟨k, hk⟩

theorem Span.holds_iff
    {span : Span}
    {lines : List Text}
    {k : Nat}
    {insn : Instruction} :
    span.Holds lines k insn ↔
      span.InBody k ∧ insn.isSave = false ∧
        ∃ text, lines[k]? = some text ∧ Instruction.ofText? text = some insn := by
  constructor
  · rintro ⟨hstart, hstop, hsave, m, text, hm, htext, hinsn⟩
    obtain rfl : m = k := by omega
    exact ⟨⟨hstart, hstop⟩, hsave, text, htext, hinsn⟩
  · rintro ⟨⟨hstart, hstop⟩, hsave, text, htext, hinsn⟩
    exact ⟨hstart, hstop, hsave, k, text, rfl, htext, hinsn⟩

namespace RoutineReport

/-- The line writes a register that has the status unsafe in the routine. -/
def Hit (routine : RoutineReport) (lines : List Text) (i : Int) : Prop :=
  ∃ insn, routine.span.Holds lines i insn ∧
    ∃ r ∈ insn.written, routine.verdict.status r = .clobbered

/-- The reported lines of a routine, by the lines of the file and the statuses of the routine. -/
theorem mem_clobbers_iff
    {settings : Settings}
    {lines : List Text}
    {span : Span}
    (hspan : span ∈ Span.findAll settings lines)
    {clobber : Clobber} :
    clobber ∈ (ofSpan lines span).clobbers ↔
      ∃ insn, span.Holds lines clobber.line insn ∧
        Clobber.FirstUnsafe (ofSpan lines span).verdict.status insn clobber.register := by
  simp only [clobbers_ofSpan, Clobber.mem_findAll_iff, Span.getElem?_body_iff hspan,
    Clobber.register?_eq_some_iff]
  constructor
  · rintro ⟨j, text, ⟨k, hk, hstop, htext⟩, hline, insn, hinsn, hsave, hfirst⟩
    have hsite : clobber.line = k := hline.trans hk.symm
    refine ⟨insn, ⟨?_, ?_, hsave, k, text, hsite, htext, hinsn⟩, hfirst⟩
    · rw [hline, Span.bodyStart]
      omega
    · rwa [hsite]
  · rintro ⟨insn, ⟨hstart, hstop, hsave, k, text, hsite, htext, hinsn⟩, hfirst⟩
    have hk : (k : Int) = span.bodyStart + (k - (span.start + 1)).toNat := by
      rw [Span.bodyStart]
      omega
    exact
      ⟨(k - (span.start + 1)).toNat, text, ⟨k, hk, hsite ▸ hstop, htext⟩,
        hsite.trans hk, insn, hinsn, hsave, hfirst⟩

/-- A routine reports lines of its body only. -/
theorem inBody_of_mem_clobbers
    {settings : Settings}
    {lines : List Text}
    {span : Span}
    {clobber : Clobber}
    (hspan : span ∈ Span.findAll settings lines)
    (hclobber : clobber ∈ (ofSpan lines span).clobbers) :
    span.InBody clobber.line := by
  obtain ⟨insn, ⟨hstart, hstop, -⟩, -⟩ := (mem_clobbers_iff hspan).mp hclobber
  exact ⟨hstart, hstop⟩

theorem exists_clobber_iff
    {settings : Settings}
    {lines : List Text}
    {span : Span}
    (hspan : span ∈ Span.findAll settings lines)
    {i : Int} :
    (∃ clobber ∈ (ofSpan lines span).clobbers, clobber.line = i) ↔
      (ofSpan lines span).Hit lines i := by
  constructor
  · rintro ⟨clobber, hmem, rfl⟩
    obtain ⟨insn, hholds, hfirst⟩ := (mem_clobbers_iff hspan).mp hmem
    exact ⟨insn, hholds, Clobber.exists_firstUnsafe_iff.mp ⟨_, hfirst⟩⟩
  · rintro ⟨insn, hholds, hwrites⟩
    obtain ⟨r, hfirst⟩ := Clobber.exists_firstUnsafe_iff.mpr hwrites
    exact ⟨⟨i, r⟩, (mem_clobbers_iff hspan).mpr ⟨insn, hholds, hfirst⟩, rfl⟩

theorem isClean_iff
    {lines : List Text}
    {span : Span} :
    (ofSpan lines span).verdict.isClean = true ↔ (ofSpan lines span).clobbers = [] := by
  rw [clobbers_ofSpan]
  exact Clobber.isClean_iff

end RoutineReport

namespace FileReport

theorem isClean_iff
    {settings : Settings}
    {path : Script}
    {lines : List Text} :
    (ofLines settings path lines).isClean = true ↔
      (ofLines settings path lines).clobbers = [] := by
  simp [isClean, clobbers, ofLines, RoutineReport.isClean_iff]

/-- **Clobber sites.**  In every routine of a file, a line is reported exactly when it lies in the
body and holds an instruction other than a bulk save that writes a register of status unsafe.  It
is then reported once, for the first such register that it writes, and the reported lines increase.
So the verdict on a routine is clean exactly when none of its lines is reported, and a file is clean
exactly when it has no reported line. -/
theorem clobbers_exact
    (settings : Settings)
    (path : Script)
    (lines : List Text) :
    (∀ routine ∈ (ofLines settings path lines).routines,
      (∀ i : Int,
        (∃ clobber ∈ routine.clobbers, clobber.line = i) ↔ routine.Hit lines i) ∧
      (∀ i : Int,
        routine.Hit lines i →
          ∃! clobber, clobber ∈ routine.clobbers ∧ clobber.line = i) ∧
      (∀ clobber : Clobber,
        clobber ∈ routine.clobbers ↔
          ∃ insn, routine.span.Holds lines clobber.line insn ∧
            Clobber.FirstUnsafe routine.verdict.status insn clobber.register) ∧
      routine.clobbers.Pairwise (fun c d => c.line < d.line) ∧
      (routine.verdict.isClean = true ↔ routine.clobbers = [])) ∧
    ((ofLines settings path lines).isClean = true ↔
      (ofLines settings path lines).clobbers = []) := by
  refine ⟨?_, isClean_iff⟩
  intro routine hroutine
  obtain ⟨span, hspan, rfl⟩ := List.mem_map.mp hroutine
  refine
    ⟨fun i => RoutineReport.exists_clobber_iff hspan, ?_,
      fun clobber => RoutineReport.mem_clobbers_iff hspan,
      Clobber.findAll_ordered _ _ _, RoutineReport.isClean_iff⟩
  intro i hhit
  obtain ⟨clobber, hmem, hline⟩ := (RoutineReport.exists_clobber_iff hspan).mpr hhit
  refine ⟨clobber, ⟨hmem, hline⟩, ?_⟩
  rintro other ⟨hother, hline'⟩
  exact Clobber.eq_of_line_eq hother hmem (hline'.trans hline.symm)

/-- A restore of one saved and two unsaved registers is reported once, for the first unsaved one. -/
theorem clobbers_exact_restore :
    ∃ routine ∈
        (ofLines {} "input"
          ["F:".toList, " movem.l d3,-(sp)".toList, " movem.l (sp)+,d3-d5".toList,
            " rts".toList]).routines,
      (∃! clobber, clobber ∈ routine.clobbers ∧ clobber.line = 2) ∧
        ⟨2, .d 4⟩ ∈ routine.clobbers := by
  refine ⟨_, List.mem_cons_self, ?_⟩
  obtain ⟨-, hunique, hmem, -⟩ :=
    (clobbers_exact {} "input"
      ["F:".toList, " movem.l d3,-(sp)".toList, " movem.l (sp)+,d3-d5".toList,
        " rts".toList]).1 _ List.mem_cons_self
  let insn := (Instruction.ofText? " movem.l (sp)+,d3-d5".toList).get (by decide)
  have hholds : Span.Holds ⟨"F", 0, 3⟩
      ["F:".toList, " movem.l d3,-(sp)".toList, " movem.l (sp)+,d3-d5".toList, " rts".toList]
      2 insn :=
    ⟨by decide, by decide, by decide, 2, _, rfl, rfl, by decide⟩
  exact
    ⟨hunique 2 ⟨insn, hholds, .d 4, by decide, by decide⟩,
      (hmem ⟨2, .d 4⟩).mpr ⟨insn, hholds, [.d 3], [.d 5], by decide, by decide, by decide⟩⟩

end FileReport
end CalleeSaved
