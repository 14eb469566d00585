import CalleeSaved.Proofs.Register.ListFormat
import CalleeSaved.Proofs.Source.Pieces

/-!
# The operands of a bulk transfer

A bulk transfer is read twice: by a grammar of its own, and by the readers of operands that serve all
instructions.  They know different blanks, cut the field in different ways and recognise the stack
pointer on their own.  This module shows that they agree about every field that the grammar accepts.

**Pairs.**  `Operand.split_pair`: two operands with a comma between them, and blanks anywhere around
them, are cut at that comma.

**Parts.**  `PushText.operand`, `PopText.operand` and `ListText.operand`: the parts of a transfer are
such operands.  `PushText.stackMove` and `PopText.stackMove`: a push or a pop by the grammar is one to
the readers of operands.

**Result.**  `operands_agree`.
-/

namespace CalleeSaved

open Text RegisterList

namespace Operand

section Pairs

/-- The text can stand as an operand before others: it is closed, it holds no comma, and no blanks
stand around it. -/
structure IsOperand (text : Text) : Prop where
  closed : text.foldl depthAfter 0 = 0
  comma_not_mem : ',' ∉ text
  start : Stops isBlank text
  finish : Stops isBlank text.reverse

theorem foldl_depthAfter_of_not_mem
    {text : Text}
    (hopen : '(' ∉ text)
    (hclose : ')' ∉ text)
    (depth : Nat) :
    text.foldl depthAfter depth = depth := by
  induction text with
  | nil =>
      rfl
  | cons c rest ih =>
      simp only [List.mem_cons, not_or] at hopen hclose
      rw [List.foldl_cons, depthAfter_of_ne (Ne.symm hopen.1) (Ne.symm hclose.1)]
      exact ih hopen.2 hclose.2

theorem whole_of_not_mem
    {text : Text}
    (h : ',' ∉ text)
    (depth : Nat) :
    Whole depth text :=
  fun _ hcomma => h (List.mem_of_getElem? hcomma.1)

namespace IsOperand

variable {text lead tail : Text}

/-- Blanks around an operand open and close nothing, and they hold no comma. -/
theorem padded
    (h : IsOperand text)
    (hlead : Within isBlank lead)
    (htail : Within isBlank tail) :
    Whole 0 (lead ++ text ++ tail) ∧ (lead ++ text ++ tail).foldl depthAfter 0 = 0 := by
  have hblank : isBlank ',' = false := by decide
  have hcomma {blanks : Text} (hblanks : Within isBlank blanks) : ',' ∉ blanks := by
    intro hmem
    rw [hblanks _ hmem] at hblank
    cases hblank
  constructor
  · refine whole_of_not_mem ?_ 0
    simp only [List.mem_append, not_or]
    exact ⟨⟨hcomma hlead, h.comma_not_mem⟩, hcomma htail⟩
  · rw [List.foldl_append, List.foldl_append, (outsideAt_blanks hlead 0).2, h.closed,
      (outsideAt_blanks htail 0).2]

theorem trim_padded
    (h : IsOperand text)
    (hlead : Within isBlank lead)
    (htail : Within isBlank tail) :
    trim (lead ++ text ++ tail) = text :=
  trimWhile_eq hlead htail h.start h.finish

end IsOperand

/-- Two operands are cut at the comma between them, whatever blanks stand around them. -/
theorem split_pair
    {lead left before after right tail : Text}
    (hleft : IsOperand left)
    (hright : IsOperand right)
    (hlead : Within isBlank lead)
    (hbefore : Within isBlank before)
    (hafter : Within isBlank after)
    (htail : Within isBlank tail) :
    split (lead ++ (left ++ before ++ ',' :: (after ++ right)) ++ tail) = [left, right] := by
  obtain ⟨hwhole, hclosed⟩ := hleft.padded hlead hbefore
  obtain ⟨hlast, -⟩ := hright.padded hafter htail
  have hpieces :
      Pieces (lead ++ left ++ before ++ ',' :: (after ++ right ++ tail))
        [lead ++ left ++ before, after ++ right ++ tail] :=
    .more hwhole hclosed (.last hlast)
  have hblank : allBlank (lead ++ left ++ before ++ ',' :: (after ++ right ++ tail)) = false := by
    simp [allBlank, isBlank]
  have hfield :
      lead ++ (left ++ before ++ ',' :: (after ++ right)) ++ tail =
        lead ++ left ++ before ++ ',' :: (after ++ right ++ tail) := by
    simp
  rw [hfield, hpieces.split_eq hblank, List.map_cons, List.map_singleton,
    hleft.trim_padded hlead hbefore, hright.trim_padded hafter htail]

theorem StackPointer.foldl_depthAfter
    {text : Text}
    (h : StackPointer text)
    (depth : Nat) :
    text.foldl depthAfter depth = depth := by
  cases h with
  | sp first second =>
      simp only [List.mem_cons, List.not_mem_nil, or_false] at first second
      rcases first with rfl | rfl | rfl <;> rcases second with rfl | rfl <;> rfl
  | a7 first =>
      simp only [List.mem_cons, List.not_mem_nil, or_false] at first
      rcases first with rfl | rfl <;> rfl

theorem StackMove.movesStack
    {text : Text}
    (h : StackMove text) :
    MovesStack text :=
  ⟨text, h, List.infix_rfl⟩

end Pairs

end Operand

theorem RegisterList.ListText.operand
    {text : Text}
    {entries : List Entry}
    (h : ListText text entries) :
    Operand.IsOperand text where
  closed :=
    Operand.foldl_depthAfter_of_not_mem (fun hmem => absurd (h.chars _ hmem) (by decide))
      (fun hmem => absurd (h.chars _ hmem) (by decide)) 0
  comma_not_mem := h.comma_not_mem
  start := h.edged.stops.1
  finish := h.edged.stops.2

namespace Transfer

open Operand

/-- What encloses the stack pointer closes one parenthesis. -/
theorem Enclosed.foldl_depthAfter
    {text : Text}
    (h : Enclosed text)
    (depth : Nat) :
    text.foldl depthAfter (depth + 1) = depth := by
  obtain ⟨before, pointer, after, rfl, hbefore, hpointer, hafter⟩ := h
  rw [List.foldl_append, (outsideAt_blanks hbefore.within_isBlank _).2, List.foldl_append,
    hpointer.foldl_depthAfter, List.foldl_append, (outsideAt_blanks hafter.within_isBlank _).2]
  rfl

theorem PushText.stackMove
    {text : Text}
    (h : PushText text) :
    StackMove text := by
  obtain ⟨_, rfl, before, pointer, after, rfl, hbefore, hpointer, hafter⟩ := h
  exact .push hbefore.within_isBlank hpointer hafter.within_isBlank

theorem PopText.stackMove
    {text : Text}
    (h : PopText text) :
    StackMove text := by
  obtain ⟨_, rfl, before, pointer, after, rfl, hbefore, hpointer, hafter⟩ := h
  simpa using StackMove.pop hbefore.within_isBlank hpointer hafter.within_isBlank

theorem PushText.operand
    {text : Text}
    (h : PushText text) :
    IsOperand text where
  closed := by
    obtain ⟨inner, rfl, hinner⟩ := h
    exact hinner.foldl_depthAfter 0
  comma_not_mem := h.comma_not_mem
  start := h.stackMove.stops.1
  finish := h.stackMove.stops.2

theorem PopText.operand
    {text : Text}
    (h : PopText text) :
    IsOperand text where
  closed := by
    obtain ⟨inner, rfl, hinner⟩ := h
    rw [List.foldl_cons, List.foldl_append]
    exact congrArg (depthAfter · '+') (hinner.foldl_depthAfter 0)
  comma_not_mem := h.comma_not_mem
  start := h.stackMove.stops.1
  finish := h.stackMove.stops.2

/-- A field that the grammar accepts is the text of a transfer with blanks around it. -/
theorem exists_transferText
    {field : Text}
    {transfer : Transfer}
    (h : parse? field = some transfer) :
    ∃ lead text tail, field = lead ++ text ++ tail ∧ Within isBlank lead ∧ Within isBlank tail ∧
      TransferText text transfer := by
  obtain ⟨lead, tail, hfield, hlead, htail, -⟩ := trimWhile_split isBlank field
  exact ⟨lead, field.trim, tail, hfield, hlead, htail, transferText_of_parse? h⟩

/-- **Operands of a transfer.**  A field that saves a set by the grammar has two operands: a list that
stands for the set, and a push through the stack pointer, which writes no register.  A field that
restores a set has a pop through the stack pointer and a list that stands for the set. -/
theorem operands_agree
    (field : Text) :
    (∀ entries, parse? field = some (.save entries) →
      ∃ list push, split field = [list, push] ∧
        RegisterList.parse list = (save entries).registers ∧
        adjustsStack push = true ∧ written push = []) ∧
    (∀ entries, parse? field = some (.restore entries) →
      ∃ pop list, split field = [pop, list] ∧
        RegisterList.parse list = (restore entries).registers ∧
        adjustsStack pop = true) := by
  constructor
  · intro entries hparse
    obtain ⟨lead, text, tail, rfl, hlead, htail, htext⟩ := exists_transferText hparse
    cases htext with
    | @save list before after push entries listForm beforeSpaces afterSpaces pushForm =>
        refine ⟨list, push, ?_, listForm.parse_eq,
          adjustsStack_iff.mpr pushForm.stackMove.movesStack,
          written_of_movesStack pushForm.stackMove.movesStack⟩
        exact split_pair listForm.operand pushForm.operand hlead beforeSpaces.within_isBlank
          afterSpaces.within_isBlank htail
  · intro entries hparse
    obtain ⟨lead, text, tail, rfl, hlead, htail, htext⟩ := exists_transferText hparse
    cases htext with
    | @restore pop before after list entries popForm beforeSpaces afterSpaces listForm =>
        refine ⟨pop, list, ?_, listForm.parse_eq,
          adjustsStack_iff.mpr popForm.stackMove.movesStack⟩
        exact split_pair popForm.operand listForm.operand hlead beforeSpaces.within_isBlank
          afterSpaces.within_isBlank htail

/-- Spaces inside the list and the parentheses stay with the operands, and blanks around the field
that the grammar does not know are gone. -/
theorem operands_agree_spaced :
    let saved : Text := "\x0c d2 - D4/a1\x09, -( ſP ) ".toList
    let restored : Text := "(\x09A7 )+ ,a7/d5\n".toList
    parse? saved =
        some (.save [.range ⟨.data, 2⟩ ⟨.data, 4⟩, .single ⟨.address, 1⟩]) ∧
      parse? restored = some (.restore [.single ⟨.address, 7⟩, .single ⟨.data, 5⟩]) ∧
      (∃ list push, split saved = [list, push] ∧
        RegisterList.parse list = RegisterSet.ofList [.d 2, .d 3, .d 4, .a 1] ∧
        adjustsStack push = true ∧ written push = []) ∧
      ∃ pop list, split restored = [pop, list] ∧
        RegisterList.parse list = RegisterSet.ofList [.d 5] ∧ adjustsStack pop = true := by
  intro saved restored
  have hsave : parse? saved =
      some (.save [.range ⟨.data, 2⟩ ⟨.data, 4⟩, .single ⟨.address, 1⟩]) := by
    decide
  have hrestore : parse? restored =
      some (.restore [.single ⟨.address, 7⟩, .single ⟨.data, 5⟩]) := by
    decide
  exact ⟨hsave, hrestore, (operands_agree saved).1 _ hsave,
    (operands_agree restored).2 _ hrestore⟩

end Transfer

end CalleeSaved
