import CalleeSaved.Proofs.Register.ListGrammar
import CalleeSaved.Proofs.Report.Showing

/-!
# The analysis has an answer for every text

Some steps of the analysis are partial: the bounds of a range may be no registers, a table may not
cover the registers, a line number may lie outside the file, and a suggestion may have no line to
start with.  Each of them is guarded by another part of the program.  This module shows that the
guards hold for every text.

**Ranges.**  `fromBounds_of_token`: the bounds that the list reader cuts out are registers.

**Instructions.**  `Instruction.effect_eq_writesOne_iff`: an instruction that writes one register
has one to name.

**Result.**  `analysis_never_fails`.
-/

namespace CalleeSaved

open Partial Text

namespace RegisterName

theorem capitalize_token
    {text : Text}
    {name : RegisterName}
    (h : Token text name) :
    capitalize text = [name.family.letter, Nat.digitChar name.number] := by
  obtain ⟨letter, rfl, hletter⟩ := h
  have hdigit : ∀ n : Fin 8, capital (Nat.digitChar n) = [Nat.digitChar n] := by decide
  have hcapital : capital letter = [name.family.letter] := by
    cases hfamily : name.family <;> rw [hfamily] at hletter <;>
      rcases hletter with rfl | rfl <;> decide
  simp [capitalize, hcapital, hdigit]

end RegisterName

theorem Family.ofCapital?_letter
    (family : Family) :
    ofCapital? family.letter = some family := by
  cases family <;> rfl

namespace RegisterList

theorem boundNumber_digit
    (letter : Char)
    (number : Fin 8) :
    boundNumber [letter, Nat.digitChar number] = .ok number := by
  have hvalue : ∀ n : Fin 8, decimalValue? (Nat.digitChar n) = some n.val := by decide
  simp only [boundNumber, boundChar, List.getElem?_cons_succ, List.getElem?_cons_zero, bind,
    Except.bind, hvalue]
  rfl

/-- Two written registers are the bounds of a range. -/
theorem fromBounds_of_token
    {left right : Text}
    {first last : RegisterName}
    (hleft : RegisterName.Token left first)
    (hright : RegisterName.Token right last) :
    fromBounds left right = .ok (Entry.range first last).registers := by
  rw [fromBounds, RegisterName.capitalize_token hleft, RegisterName.capitalize_token hright,
    fromCapitalBounds, Entry.registers]
  have hletter : first.family.letter = last.family.letter ↔ first.family = last.family := by
    cases first.family <;> cases last.family <;> decide
  simp only [boundChar, List.getElem?_cons_zero, bind, Except.bind, ne_eq, hletter]
  by_cases hfamily : first.family = last.family
  · simp only [hfamily, not_true_eq_false, if_false, if_true, Family.ofCapital?_letter,
      boundNumber_digit]
    rfl
  · simp only [hfamily, not_false_eq_true, if_true, if_false]
    rfl

/-- The bounds that the list reader cuts out of an entry. -/
def bounds? (piece : Text) : Option (Text × Text) :=
  match piece.splitOn '-' with
  | [first, last] => some (trimSpaces first, trimSpaces last)
  | _ => none

/-- The bounds of every range in a register list that can be read are registers, and the range
between them is what the entry stands for. -/
theorem fromBounds_of_entries?
    {field piece first last : Text}
    {entries : List Entry}
    (hentries : entries? field = some entries)
    (hpiece : piece ∈ field.splitOn '/')
    (hbounds : bounds? piece = some (first, last)) :
    ∃ entry ∈ entries, Entry.ofText? piece = some entry ∧
      fromBounds first last = .ok entry.registers := by
  obtain ⟨entry, hentry, hread⟩ := exists_mem_of_mapM hentries piece hpiece
  refine ⟨entry, hentry, hread, ?_⟩
  rw [bounds?] at hbounds
  rw [Entry.ofText?] at hread
  split at hbounds
  · next left right hsplit =>
      obtain ⟨rfl, rfl⟩ := Prod.mk.inj (Option.some.inj hbounds)
      rw [hsplit] at hread
      obtain ⟨first, hfirst, hbind⟩ := Option.bind_eq_some_iff.mp hread
      obtain ⟨last, hlast, hpure⟩ := Option.bind_eq_some_iff.mp hbind
      obtain rfl : Entry.range first last = entry := Option.some.inj hpure
      exact
        fromBounds_of_token (RegisterName.ofText?_eq_some_iff.mp hfirst)
          (RegisterName.ofText?_eq_some_iff.mp hlast)
  · cases hbounds

end RegisterList

namespace Instruction

theorem exists_written_of_writesOne
    {insn : Instruction}
    (h : insn.effect = .writesOne) :
    ∃ r, insn.written[0]? = some r := by
  obtain ⟨statement, action⟩ := insn
  cases action with
  | save registers =>
      simp [effect] at h
  | restore registers =>
      simp [effect] at h
  | assign registers =>
      match registers with
      | [] =>
          simp only [effect] at h
          split at h <;> cases h
      | r :: rest =>
          exact ⟨r, rfl⟩

/-- An instruction names a register exactly when its effect is to write one, and the register is the
first that it writes. -/
theorem effect_eq_writesOne_iff
    {insn : Instruction} :
    insn.effect = .writesOne ↔ ∃ r, insn.written[0]? = some r ∧ insn.target? = some r := by
  constructor
  · intro heffect
    obtain ⟨r, hr⟩ := exists_written_of_writesOne heffect
    exact ⟨r, hr, by rw [target?, if_pos heffect, hr]⟩
  · rintro ⟨r, -, htarget⟩
    by_contra heffect
    rw [target?, if_neg heffect] at htarget
    cases htarget

end Instruction

/-- **No error is met.**  This holds for every text, whatever the path and the settings.  The bounds
of every range in a register list that can be read are registers, and the range between them is what
the entry stands for.  An instruction has one register to name exactly when its effect says so.  The
table of every verdict covers the registers, and every clobber lies on a line of the file.  Every
diagnostic of every inspector can be shown in either layout: no suggestion is without a line.  Only
a machine that cannot write the number of lines, or a line that the terminal layout cannot hold,
stops it. -/
theorem FileReport.analysis_never_fails
    (settings : Settings)
    (path : Script)
    (text : Text) :
    let report := ofText settings path text
    (∀ (field : Text) (entries : List RegisterList.Entry),
      RegisterList.entries? field = some entries →
      ∀ piece ∈ field.splitOn '/', ∀ first last,
        RegisterList.bounds? piece = some (first, last) →
        ∃ entry ∈ entries, RegisterList.Entry.ofText? piece = some entry ∧
          RegisterList.fromBounds first last = .ok entry.registers) ∧
    (∀ line ∈ text.lines, ∀ insn, Instruction.ofText? line = some insn →
      (insn.effect = .writesOne ↔
        ∃ r, insn.written[0]? = some r ∧ insn.target? = some r)) ∧
    (∀ routine ∈ report.routines,
      Verdict.ofTable routine.verdict.table routine.verdict.usage = .ok routine.verdict ∧
      ∀ clobber ∈ routine.clobbers,
        0 ≤ clobber.line ∧ ∃ line, report.lines[clobber.line.toNat]? = some line) ∧
    ∀ (inspector : Inspector), ∀ d ∈ (inspector.inspect report).2, ∀ printer : Printer,
      (∃ shown, (printer.print d).2 = .ok shown) ∨
        (printer.print d).2 ≠ .error .emptyHelp ∧
          (printer.limits.writes text.lines.length = false ∨
            printer.layout = .terminal ∧ ∃ line ∈ text.lines, ¬ printer.limits.Fits line) := by
  intro report
  refine ⟨fun field entries hentries piece hpiece first last hbounds => ?_, ?_, ?_, ?_⟩
  · exact RegisterList.fromBounds_of_entries? hentries hpiece hbounds
  · exact fun _ _ _ _ => Instruction.effect_eq_writesOne_iff
  · intro routine hroutine
    refine ⟨Verdict.ofTable_map _ _, fun clobber hclobber => ?_⟩
    obtain ⟨k, line, -, hk, hline, -⟩ := exists_instruction_of_mem_clobbers hroutine hclobber
    rw [hk]
    exact ⟨Int.natCast_nonneg k, line, hline⟩
  · intro inspector d hd printer
    obtain ⟨line, hpoints⟩ := Inspector.exists_points hd
    refine (hpoints.print_cases printer).imp_right fun ⟨hhelp, hcause⟩ => ⟨hhelp, ?_⟩
    exact hcause.imp_right fun ⟨hlayout, hline⟩ => ⟨hlayout, line, hpoints.mem, hline⟩

/-- A range that is written downwards, a line that writes one register, and the terminal layout of
both clobbers on a machine with narrow lines. -/
theorem FileReport.analysis_never_fails_range :
    let text : Text := "F:\n clr.l d2\n movem.l (sp)+,a3-A2\n rts".toList
    let range := RegisterList.Entry.range ⟨.address, 3⟩ ⟨.address, 2⟩
    let found := ((Inspector.new {}).inspect (ofText {} "f.s" text)).2
    let printer : Printer :=
      { layout := .terminal, limits := ⟨40, 40, some 2⟩, paint := fun _ _ shown => shown,
        sources := [("f.s", text.lines)] }
    (∃ entry ∈ [range], RegisterList.Entry.ofText? "a3-A2".toList = some entry ∧
      RegisterList.fromBounds "a3".toList "A2".toList = .ok entry.registers) ∧
    (∃ insn, Instruction.ofText? " clr.l d2".toList = some insn ∧ insn.effect = .writesOne ∧
      ∃ r, insn.written[0]? = some r ∧ insn.target? = some r) ∧
    found.map Diagnostic.register = ["D2", "A2"] ∧
    ∀ d ∈ found, ∃ shown, (printer.print d).2 = .ok shown := by
  intro text range found printer
  obtain ⟨hrange, hinsn, -, hprint⟩ := analysis_never_fails {} "f.s" text
  have hentries : RegisterList.entries? "a3-A2".toList = some [range] := by decide
  have hline : " clr.l d2".toList ∈ text.lines := by decide
  let insn := (Instruction.ofText? " clr.l d2".toList).get (by decide)
  have hread : Instruction.ofText? " clr.l d2".toList = some insn := by decide
  have heffect : insn.effect = .writesOne := by decide
  refine
    ⟨hrange _ _ hentries _ (by decide) _ _ (by decide),
      ⟨insn, hread, heffect, (hinsn _ hline insn hread).mp heffect⟩, by decide, ?_⟩
  intro d hd
  refine (hprint (Inspector.new {}) d hd printer).resolve_right ?_
  have hholds : printer.limits.Holds text.lines := by decide
  rintro ⟨-, hcause | ⟨-, line, hmem, hnarrow⟩⟩
  · rw [hholds.number] at hcause
    cases hcause
  · exact hnarrow (hholds.fits line hmem)

end CalleeSaved
