import CalleeSaved.Proofs.Register.ListGrammar
import CalleeSaved.Source.Transfer

/-!
# The grammar of bulk transfers

The operand field of a bulk transfer is a register list and a push or pop through the stack pointer,
with a comma between them.  The reader cuts the field at its commas and trims the pieces.  This
module compares it with a grammar of such fields.

**Grammar.**  `StackPointer` is the stack pointer as it is written, `PushText` and `PopText` the
operands that move it, and `TransferText` the whole field with its meaning.

**Parts.**  `isPush_iff` and `isPop_iff`: the operands that the reader takes for a push or a pop.

**Results.**
* `parse?_eq_some_iff`: the reader accepts exactly the written transfers.
* `grammar_exact`: the registers that a field saves or restores, and those of a register list.
-/

namespace CalleeSaved

open Text RegisterList

namespace Operand

/-- The stack pointer as it is written, by either of its names and in either case.  The long s is a
small form of the capital S. -/
inductive StackPointer : Text → Prop
  | sp {s p : Char} (first : s ∈ ['s', 'S', 'ſ']) (second : p ∈ ['p', 'P']) : StackPointer [s, p]
  | a7 {a : Char} (first : a ∈ ['a', 'A']) : StackPointer [a, '7']

theorem isStackPointer_iff
    {c d : Char} :
    isStackPointer c d = true ↔ StackPointer [c, d] := by
  constructor
  · intro h
    simp only [isStackPointer, Bool.or_eq_true, Bool.and_eq_true, beq_iff_eq, or_assoc] at h
    rcases h with ⟨hc, hd⟩ | ⟨hc, rfl⟩
    · exact .sp (by simpa using hc) (by simpa using hd)
    · exact .a7 (by simpa using hc)
  · intro h
    cases h with
    | sp first second =>
        simp_all [isStackPointer, or_assoc]
    | a7 first =>
        simp_all [isStackPointer]

/-- The stack pointer with characters of the class around it stands before the rest. -/
theorem afterStackPointer?_eq_some_iff
    {skipped : Char → Bool}
    (hclass : ∀ c ∈ ['s', 'S', 'ſ', 'a', 'A'], skipped c = false)
    {text rest : Text} :
    afterStackPointer? skipped text = some rest ↔
      ∃ before pointer after, text = before ++ (pointer ++ (after ++ rest)) ∧
        Within skipped before ∧ StackPointer pointer ∧ Within skipped after ∧
        Stops skipped rest := by
  constructor
  · intro h
    unfold afterStackPointer? at h
    split at h
    · next c d tail hdrop =>
        split at h
        · next hpointer =>
            obtain rfl := Option.some.inj h
            refine ⟨text.takeWhile skipped, [c, d], tail.takeWhile skipped, ?_,
              within_takeWhile _ _, isStackPointer_iff.mp hpointer, within_takeWhile _ _,
              stops_dropWhile _ _⟩
            rw [List.takeWhile_append_dropWhile, List.cons_append, List.singleton_append, ← hdrop,
              List.takeWhile_append_dropWhile]
        · simp at h
    · simp at h
  · rintro ⟨before, pointer, after, rfl, hbefore, hpointer, hafter, hrest⟩
    obtain ⟨c, d, rfl, hc⟩ : ∃ c d, pointer = [c, d] ∧ c ∈ ['s', 'S', 'ſ', 'a', 'A'] := by
      cases hpointer with
      | sp first second =>
          exact ⟨_, _, rfl, List.mem_append_left ['a', 'A'] first⟩
      | a7 first =>
          exact ⟨_, _, rfl, List.mem_append_right ['s', 'S', 'ſ'] first⟩
    have hstop : Stops skipped ([c, d] ++ (after ++ rest)) := stops_cons.mpr (hclass c hc)
    rw [afterStackPointer?, dropWhile_append_of_within hbefore hstop]
    simp [isStackPointer_iff.mpr hpointer, dropWhile_append_of_within hafter hrest]

theorem StackPointer.comma_not_mem
    {text : Text}
    (h : StackPointer text) :
    ',' ∉ text := by
  cases h with
  | sp first second =>
      simp only [List.mem_cons, List.not_mem_nil, or_false] at first second
      rcases first with rfl | rfl | rfl <;> rcases second with rfl | rfl <;> decide
  | a7 first =>
      simp only [List.mem_cons, List.not_mem_nil, or_false] at first
      rcases first with rfl | rfl <;> decide

end Operand

namespace Transfer

open Operand

section PushesAndPops

/-- The stack pointer with optional spaces around it, up to a closing parenthesis. -/
def Enclosed (text : Text) : Prop :=
  ∃ before pointer after, text = before ++ (pointer ++ (after ++ [')'])) ∧
    Spaces before ∧ StackPointer pointer ∧ Spaces after

/-- A push as it is written. -/
def PushText (text : Text) : Prop :=
  ∃ inner, text = '-' :: '(' :: inner ∧ Enclosed inner

/-- A pop as it is written. -/
def PopText (text : Text) : Prop :=
  ∃ inner, text = '(' :: (inner ++ ['+']) ∧ Enclosed inner

theorem Enclosed.comma_not_mem
    {text : Text}
    (h : Enclosed text) :
    ',' ∉ text := by
  obtain ⟨before, pointer, after, rfl, hbefore, hpointer, hafter⟩ := h
  simp only [List.mem_append, not_or]
  exact ⟨hbefore.not_mem rfl, hpointer.comma_not_mem, hafter.not_mem rfl, by decide⟩

theorem afterStackPointer?_eq_iff
    {text rest : Text} :
    afterStackPointer? isSpace text = some (')' :: rest) ↔
      ∃ inner, text = inner ++ rest ∧ Enclosed inner := by
  have hclass : ∀ c ∈ ['s', 'S', 'ſ', 'a', 'A'], isSpace c = false := by simp [isSpace]
  rw [afterStackPointer?_eq_some_iff hclass]
  simp only [within_isSpace_iff]
  constructor
  · rintro ⟨before, pointer, after, rfl, hbefore, hpointer, hafter, -⟩
    exact ⟨_, by simp, before, pointer, after, rfl, hbefore, hpointer, hafter⟩
  · rintro ⟨_, rfl, before, pointer, after, rfl, hbefore, hpointer, hafter⟩
    exact ⟨before, pointer, after, by simp, hbefore, hpointer, hafter, stops_cons.mpr (by decide)⟩

theorem isPush_iff
    {text : Text} :
    isPush text = true ↔ PushText text := by
  constructor
  · intro h
    unfold isPush at h
    split at h
    · next rest =>
        obtain ⟨inner, rfl, hinner⟩ :=
          afterStackPointer?_eq_iff.mp (beq_iff_eq.mp h)
        exact ⟨inner, by simp, hinner⟩
    · simp at h
  · rintro ⟨inner, rfl, hinner⟩
    exact beq_iff_eq.mpr (afterStackPointer?_eq_iff.mpr ⟨inner, by simp, hinner⟩)

theorem isPop_iff
    {text : Text} :
    isPop text = true ↔ PopText text := by
  constructor
  · intro h
    unfold isPop at h
    split at h
    · next rest =>
        obtain ⟨inner, rfl, hinner⟩ :=
          afterStackPointer?_eq_iff.mp (beq_iff_eq.mp h)
        exact ⟨inner, rfl, hinner⟩
    · simp at h
  · rintro ⟨inner, rfl, hinner⟩
    exact beq_iff_eq.mpr (afterStackPointer?_eq_iff.mpr ⟨inner, rfl, hinner⟩)

theorem PushText.tight
    {text : Text}
    (h : PushText text) :
    Tight text := by
  obtain ⟨_, rfl, before, pointer, after, rfl, -⟩ := h
  refine ⟨stops_cons.mpr rfl, ?_⟩
  simp only [List.reverse_cons, List.reverse_append, List.reverse_nil, List.nil_append,
    List.cons_append]
  exact stops_cons.mpr rfl

theorem PopText.tight
    {text : Text}
    (h : PopText text) :
    Tight text := by
  obtain ⟨inner, rfl, -⟩ := h
  refine ⟨stops_cons.mpr rfl, ?_⟩
  simp only [List.reverse_cons, List.reverse_append, List.reverse_nil, List.nil_append,
    List.cons_append]
  exact stops_cons.mpr rfl

theorem PushText.comma_not_mem
    {text : Text}
    (h : PushText text) :
    ',' ∉ text := by
  obtain ⟨inner, rfl, hinner⟩ := h
  simpa using hinner.comma_not_mem

theorem PopText.comma_not_mem
    {text : Text}
    (h : PopText text) :
    ',' ∉ text := by
  obtain ⟨inner, rfl, hinner⟩ := h
  simpa using hinner.comma_not_mem

end PushesAndPops

section Transfers

/-- The operand field of a transfer as it is written: a register list before a push, or after a pop,
with a comma and optional spaces between the two. -/
inductive TransferText : Text → Transfer → Prop
  | save {list before after push : Text} {entries : List Entry} (listForm : ListText list entries)
      (beforeSpaces : Spaces before) (afterSpaces : Spaces after) (pushForm : PushText push) :
      TransferText (list ++ before ++ ',' :: (after ++ push)) (.save entries)
  | restore {pop before after list : Text} {entries : List Entry} (popForm : PopText pop)
      (beforeSpaces : Spaces before) (afterSpaces : Spaces after)
      (listForm : ListText list entries) :
      TransferText (pop ++ before ++ ',' :: (after ++ list)) (.restore entries)

/-- The reader accepts a written transfer. -/
theorem TransferText.parse?_eq
    {field : Text}
    {transfer : Transfer}
    (h : TransferText field.trim transfer) :
    parse? field = some transfer := by
  unfold parse?
  generalize field.trim = text at h ⊢
  cases h with
  | @save list before after push entries listForm beforeSpaces afterSpaces pushForm =>
      have hsplit : (list ++ before ++ ',' :: (after ++ push)).splitOn ',' =
          [list ++ before, after ++ push] :=
        splitOn_pair (by simpa using ⟨listForm.comma_not_mem, beforeSpaces.not_mem rfl⟩)
          (by simpa using ⟨afterSpaces.not_mem rfl, pushForm.comma_not_mem⟩)
      have htarget : trimSpaces (after ++ push) = push := by
        simpa using pushForm.tight.trimSpaces_eq afterSpaces spaces_nil
      have hentries : entries? (list ++ before) = some entries := by
        simpa using listForm.entries?_eq spaces_nil beforeSpaces
      simp only [hsplit, htarget, isPush_iff.mpr pushForm, if_true, hentries, Option.map_some]
  | @restore pop before after list entries popForm beforeSpaces afterSpaces listForm =>
      have hsplit : (pop ++ before ++ ',' :: (after ++ list)).splitOn ',' =
          [pop ++ before, after ++ list] :=
        splitOn_pair (by simpa using ⟨popForm.comma_not_mem, beforeSpaces.not_mem rfl⟩)
          (by simpa using ⟨afterSpaces.not_mem rfl, listForm.comma_not_mem⟩)
      have hsource : trimSpaces (pop ++ before) = pop := by
        simpa using popForm.tight.trimSpaces_eq spaces_nil beforeSpaces
      have htarget : trimSpaces (after ++ list) = list := by
        simpa using listForm.edged.tight.trimSpaces_eq afterSpaces spaces_nil
      have hlist : isPush list = false := by
        by_contra hpush
        obtain ⟨inner, rfl, -⟩ := isPush_iff.mp (by simpa using hpush)
        obtain ⟨⟨c, hc, halnum⟩, -⟩ := listForm.edged
        obtain rfl : '-' = c := Option.some.inj hc
        exact absurd halnum (by decide)
      have hentries : entries? (after ++ list) = some entries := by
        simpa using listForm.entries?_eq afterSpaces spaces_nil
      simp only [hsplit, hsource, htarget, hlist, Bool.false_eq_true, if_false,
        isPop_iff.mpr popForm, if_true, hentries, Option.map_some]

/-- What the reader accepts is a written transfer. -/
theorem transferText_of_parse?
    {field : Text}
    {transfer : Transfer}
    (h : parse? field = some transfer) :
    TransferText field.trim transfer := by
  obtain ⟨hstart, hend⟩ := stops_trim field
  unfold parse? at h
  split at h
  · next source target hsplit =>
      have htext := eq_of_splitOn_eq_pair hsplit
      rw [htext] at hstart hend ⊢
      split at h
      · next hpush =>
          obtain ⟨entries, hentries, rfl⟩ := Option.map_eq_some_iff.mp h
          obtain ⟨lead, list, before, rfl, hlead, hbefore, hlist⟩ :=
            entries?_eq_some_iff.mp hentries
          obtain ⟨after, tail, htarget, hafter, htail⟩ := trimSpaces_split target
          generalize trimSpaces target = push at htarget hpush
          subst htarget
          obtain rfl : lead = [] := eq_nil_of_stops hlead (by simpa using hstart)
          obtain rfl : tail = [] :=
            eq_nil_of_stops_reverse (list ++ before ++ ',' :: (after ++ push)) htail
              (by simpa using hend)
          simpa using TransferText.save hlist hbefore hafter (isPush_iff.mp hpush)
      · split at h
        · next hpop =>
            obtain ⟨entries, hentries, rfl⟩ := Option.map_eq_some_iff.mp h
            obtain ⟨after, list, tail, rfl, hafter, htail, hlist⟩ :=
              entries?_eq_some_iff.mp hentries
            obtain ⟨lead, before, hsource, hlead, hbefore⟩ := trimSpaces_split source
            generalize trimSpaces source = pop at hsource hpop
            subst hsource
            obtain rfl : lead = [] := eq_nil_of_stops hlead (by simpa using hstart)
            obtain rfl : tail = [] :=
              eq_nil_of_stops_reverse (pop ++ before ++ ',' :: (after ++ list)) htail
                (by simpa using hend)
            simpa using TransferText.restore (isPop_iff.mp hpop) hbefore hafter hlist
        · simp at h
  · simp at h

/-- The reader accepts exactly the written transfers. -/
theorem parse?_eq_some_iff
    {field : Text}
    {transfer : Transfer} :
    parse? field = some transfer ↔ TransferText field.trim transfer :=
  ⟨transferText_of_parse?, TransferText.parse?_eq⟩

end Transfers

end Transfer

namespace RegisterList

/-- The set holds exactly the registers that the entries stand for. -/
def StandFor (entries : List Entry) (s : RegisterSet) : Prop :=
  ∀ r, r ∈ s ↔ ∃ entry ∈ entries, entry.Denotes r

theorem standFor_iff
    {entries : List Entry}
    {s : RegisterSet} :
    StandFor entries s ↔ registers entries = s := by
  constructor
  · intro h
    exact RegisterSet.ext fun r => mem_registers_iff.trans (h r).symm
  · rintro rfl r
    exact mem_registers_iff

end RegisterList

namespace Transfer

/-- **Transfers by their grammar.**  Without the blanks around it, a field saves a set exactly when
it is a register list before a push, and restores it exactly when it is a register list after a pop;
the set is the union of what the entries stand for.  No other field is a transfer.  A register list
alone stands for the union of its entries, and any other text for no register. -/
theorem grammar_exact
    (field : Text) :
    (∀ s : RegisterSet,
      (∃ entries, parse? field = some (.save entries) ∧ (save entries).registers = s) ↔
        ∃ entries, TransferText field.trim (.save entries) ∧ StandFor entries s) ∧
    (∀ s : RegisterSet,
      (∃ entries, parse? field = some (.restore entries) ∧ (restore entries).registers = s) ↔
        ∃ entries, TransferText field.trim (.restore entries) ∧ StandFor entries s) ∧
    (parse? field = none ↔ ¬ ∃ transfer, TransferText field.trim transfer) ∧
    (∀ entries s, ListText field.trim entries → StandFor entries s → RegisterList.parse field = s) ∧
    ((¬ ∃ entries, ListText field.trim entries) → RegisterList.parse field = ∅) := by
  refine ⟨?_, ?_, ?_, ?_, ?_⟩
  · intro s
    simp only [parse?_eq_some_iff, standFor_iff]
    rfl
  · intro s
    simp only [parse?_eq_some_iff, standFor_iff]
    rfl
  · simp only [← parse?_eq_some_iff, Option.eq_none_iff_forall_ne_some, not_exists]
  · intro entries s hlist hstand
    rw [RegisterList.parse, RegisterList.parse?, entries?_trim_iff.mpr hlist]
    exact standFor_iff.mp hstand
  · intro hnone
    have hentries : entries? field.trim = none := by
      rw [Option.eq_none_iff_forall_ne_some]
      exact fun entries h => hnone ⟨entries, entries?_trim_iff.mp h⟩
    rw [RegisterList.parse, RegisterList.parse?, hentries]
    rfl

/-- A range up to the stack pointer, written downwards, stands for the address registers below it.
A range of three bounds is no list. -/
theorem grammar_exact_downwards :
    ListText (Text.trim "\x09a7 - A5/ d1 ".toList)
        [.range ⟨.address, 7⟩ ⟨.address, 5⟩, .single ⟨.data, 1⟩] ∧
      RegisterList.parse "\x09a7 - A5/ d1 ".toList = RegisterSet.ofList [.d 1, .a 5, .a 6] ∧
      (¬ ∃ entries, ListText (Text.trim "d0-d1-d2".toList) entries) ∧
      RegisterList.parse "d0-d1-d2".toList = ∅ := by
  have hlist : ListText (Text.trim "\x09a7 - A5/ d1 ".toList)
      [.range ⟨.address, 7⟩ ⟨.address, 5⟩, .single ⟨.data, 1⟩] :=
    entries?_trim_iff.mp (by decide)
  have hnone : ¬ ∃ entries, ListText (Text.trim "d0-d1-d2".toList) entries := by
    rintro ⟨entries, hentries⟩
    have hread : entries? (Text.trim "d0-d1-d2".toList) = none := by decide
    rw [entries?_trim_iff.mpr hentries] at hread
    exact absurd hread (by simp)
  have hstand : StandFor [.range ⟨.address, 7⟩ ⟨.address, 5⟩, .single ⟨.data, 1⟩]
      (RegisterSet.ofList [.d 1, .a 5, .a 6]) :=
    standFor_iff.mpr (by decide)
  exact
    ⟨hlist, (grammar_exact "\x09a7 - A5/ d1 ".toList).2.2.2.1 _ _ hlist hstand, hnone,
      (grammar_exact "d0-d1-d2".toList).2.2.2.2 hnone⟩

end Transfer

end CalleeSaved
