import CalleeSaved.Proofs.Register.ListFormat
import CalleeSaved.Proofs.Source.TrailingComment
import CalleeSaved.Proofs.Source.TransferGrammar

/-!
# Bulk transfers of a written list

A list that is written for a set of registers can be put into a bulk transfer.  The line then saves
or restores exactly the set.

**Line.**  `ofText_line`: the reading of a line made of a bulk transfer mnemonic and an operand
field.  `ofText?_line`: what the line does when the field is a transfer by the grammar.

**Fields.**  `transferText_push` and `transferText_pop`: a written list before a push, and after a
pop.

**Result.**  `format_roundTrip`.
-/

namespace CalleeSaved

open Text RegisterList

/-- The members of a set are listed in canonical order. -/
theorem RegisterSet.toList_ordered
    (s : RegisterSet) :
    s.toList.Pairwise fun q r => q.index < r.index := by
  have hall : Register.all.Pairwise fun q r => q.index < r.index := by decide
  exact hall.filter _

/-- The line that transfers registers by the given operand field. -/
def Transfer.line (field : Text) : Text :=
  "movem.l ".toList ++ field

/-- The statement of such a line. -/
def Transfer.statement (field : Text) : Statement :=
  ⟨none, "movem", some "l", field⟩

/-- The action of a transfer. -/
def Transfer.action : Transfer → Action
  | .save entries => .save (RegisterList.registers entries)
  | .restore entries => .restore (RegisterList.registers entries)

/-- The field holds no comment, and no blanks stand around it. -/
structure Transfer.Bare (field : Text) : Prop where
  ne_nil : field ≠ []
  code : ';' ∉ field
  start : Stops isBlank field
  finish : Stops isBlank field.reverse

theorem Transfer.Bare.trim_eq
    {field : Text}
    (h : Transfer.Bare field) :
    field.trim = field :=
  trim_eq_self h.start h.finish

theorem Line.ofText_line
    {field : Text}
    (h : Transfer.Bare field) :
    ofText (Transfer.line field) = .instruction (Transfer.statement field) := by
  let w : Writing := ⟨none, "movem".toList, some ['l'], some ([' '], field), none, by simp,
    by decide, by decide, by simpa [Gap, Spaces] using h.code, by simp⟩
  have htext : w.text = Transfer.line field := by
    change "movem.l ".toList ++ (field ++ []) = _
    rw [List.append_nil]
    rfl
  have hstatement : w.statement = Transfer.statement field := by
    change (⟨none, _, _, field.trim⟩ : Statement) = _
    rw [h.trim_eq]
    rfl
  have hbare : (Transfer.line field).trim = Transfer.line field := by
    have hhead : Transfer.line field = 'm' :: ("ovem.l ".toList ++ field) := rfl
    have hback : (Transfer.line field).reverse = field.reverse ++ "movem.l ".toList.reverse :=
      List.reverse_append
    refine trim_eq_self ?_ ?_
    · rw [hhead]
      exact stops_cons.mpr (by decide)
    · rw [hback]
      exact h.finish.append (by simpa using h.ne_nil) _
  rw [ofText, hbare]
  exact ofTrimmed_eq_instruction_iff.mpr ⟨w, htext, hstatement⟩

theorem Instruction.ofText?_line
    {field : Text}
    {transfer : Transfer}
    (h : Transfer.Bare field)
    (hform : Transfer.TransferText field transfer) :
    ofText? (Transfer.line field) = some ⟨Transfer.statement field, transfer.action⟩ := by
  have hparse : Transfer.parse? field = some transfer :=
    Transfer.TransferText.parse?_eq (h.trim_eq.symm ▸ hform)
  have hmovem : ("movem" == "movem" && (some "l").any Statement.transferSizes.contains) = true := by
    decide
  have htransfer : (Transfer.statement field).transfer? = some transfer :=
    (if_pos hmovem).trans hparse
  have haction : (Transfer.statement field).action = transfer.action := by
    rw [Statement.action, htransfer]
    cases transfer <;> rfl
  rw [ofText?, Line.ofText_line h, ofLine?, haction]

namespace RegisterList

variable {list : Text} {entries : List Entry}

theorem ListText.semicolon_not_mem
    (h : ListText list entries) :
    ';' ∉ list :=
  fun hmem => absurd (h.chars _ hmem) (by decide)

theorem ListText.ne_nil
    (h : ListText list entries) :
    list ≠ [] := by
  obtain ⟨⟨c, hc, -⟩, -⟩ := h.edged
  rintro rfl
  cases hc

end RegisterList

namespace Transfer

variable {list : Text} {entries : List Entry}

theorem enclosed_sp : Enclosed "sp)".toList :=
  ⟨[], "sp".toList, [], rfl, spaces_nil, .sp (by decide) (by decide), spaces_nil⟩

theorem transferText_push
    (h : ListText list entries) :
    TransferText (list ++ ",-(sp)".toList) (.save entries) := by
  have hpush : PushText "-(sp)".toList := ⟨_, rfl, enclosed_sp⟩
  simpa using TransferText.save h spaces_nil spaces_nil hpush

theorem transferText_pop
    (h : ListText list entries) :
    TransferText ("(sp)+,".toList ++ list) (.restore entries) := by
  have hpop : PopText "(sp)+".toList := ⟨_, rfl, enclosed_sp⟩
  simpa using TransferText.restore hpop spaces_nil spaces_nil h

theorem bare_push
    (h : ListText list entries) :
    Bare (list ++ ",-(sp)".toList) where
  ne_nil := by simp
  code := by simpa using h.semicolon_not_mem
  start := h.edged.stops.1.append h.ne_nil _
  finish := by simp [isBlank]

theorem bare_pop
    (h : ListText list entries) :
    Bare ("(sp)+,".toList ++ list) where
  ne_nil := by simp
  code := by simpa using h.semicolon_not_mem
  start := by simp [isBlank]
  finish := by
    rw [List.reverse_append]
    exact h.edged.stops.2.append (by simpa using h.ne_nil) _

/-- **Written lists.**  Reading the list that is written for a set gives the set back.  If the set
is not empty, the list before a push is a bulk save of the set, and after a pop it is a bulk
restore that writes the members of the set in canonical order. -/
theorem format_roundTrip
    (s : RegisterSet) :
    RegisterList.parse (RegisterList.format s) = s ∧
    (s ≠ ∅ →
      (∃ insn,
        Instruction.ofText?
            ("movem.l ".toList ++ (RegisterList.format s ++ ",-(sp)".toList)) = some insn ∧
          insn.isSave = true ∧ insn.effect = .savesSet ∧ insn.saved = s) ∧
      (∃ insn,
        Instruction.ofText?
            ("movem.l ".toList ++ ("(sp)+,".toList ++ RegisterList.format s)) = some insn ∧
          insn.isRestore = true ∧ insn.effect = .writesSet ∧ insn.written = s.toList)) ∧
    (s.toList.Pairwise fun q r => q.index < r.index) := by
  refine ⟨parse_format s, fun hne => ?_, s.toList_ordered⟩
  have hlist := listText_format hne
  constructor
  · exact ⟨_, Instruction.ofText?_line (bare_push hlist) (transferText_push hlist), rfl, rfl,
      registers_format s⟩
  · exact ⟨_, Instruction.ofText?_line (bare_pop hlist) (transferText_pop hlist), rfl, rfl,
      congrArg RegisterSet.toList (registers_format s)⟩

/-- Neither a gap nor the end of the data registers is bridged by a run. -/
theorem format_roundTrip_gaps :
    let s := RegisterSet.ofList [.a 0, .d 7, .d 3, .a 6, .d 0, .d 2, .a 5, .d 1]
    RegisterList.format s = "d0-d3/d7/a0/a5-a6".toList ∧ s ≠ ∅ ∧
      ∃ insn,
        Instruction.ofText? "movem.l (sp)+,d0-d3/d7/a0/a5-a6".toList = some insn ∧
          insn.isRestore = true ∧
          insn.written = [.d 0, .d 1, .d 2, .d 3, .d 7, .a 0, .a 5, .a 6] := by
  intro s
  have hformat : RegisterList.format s = "d0-d3/d7/a0/a5-a6".toList := by decide
  have hne : s ≠ ∅ := by decide
  obtain ⟨-, htransfers, -⟩ := format_roundTrip s
  obtain ⟨-, insn, hread, hrestore, -, hwritten⟩ := htransfers hne
  rw [hformat] at hread
  exact ⟨hformat, hne, insn, hread, hrestore, hwritten.trans (by decide)⟩

end Transfer

end CalleeSaved
