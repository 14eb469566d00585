import CalleeSaved.Proofs.Register.Tokens
import CalleeSaved.Proofs.Source.TransferGrammar
import Mathlib.Data.List.Basic

/-!
# Bulk transfers by rules

The operand field of a bulk transfer is also described by rules that read a text from left to right,
and choose between alternatives in order: once a rule has succeeded, no other alternative is tried.
This module shows that the readers, which cut the text at separators instead, agree with the rules.

**Rules.**  A `Rule` reads a value off the front of a text.  `literal`, `spaces`, `separator` and `many`
are the parts that rules are made of, and `whole` is a rule that has to reach the end.

**Lists.**  `list_sound` and `list_complete`: what the rule for lists reads off the front of a text.

**Transfers.**  `whole_transfer_iff`: the rule for transfers accepts exactly the written ones.

**Results.**  `RegisterList.parse?_eq_rule` and `Transfer.parse?_eq_rule`.
-/

namespace CalleeSaved

open Text RegisterList

/-- A rule reads a value off the front of a text, and leaves the rest. -/
abbrev Rule := StateT Text Option

namespace Rule

section Parts

variable {α β : Type}

/-- The given text. -/
def literal (s : Text) : Rule Unit := fun text =>
  (text.dropPrefix? s).map fun rest => ((), rest)

/-- As many spaces as there are. -/
def spaces : Rule Unit := fun text =>
  some ((), text.dropWhile isSpace)

/-- A character with optional spaces around it. -/
def separator (c : Char) : Rule Unit := do
  spaces
  literal [c]
  spaces

/-- What a rule reads off the front of a text again and again, and the rest. -/
def readAll (rule : Rule α) (text : Text) : List α × Text :=
  match rule text with
  | none => ([], text)
  | some (value, rest) =>
      if rest.length < text.length then (value :: (readAll rule rest).1, (readAll rule rest).2)
      else ([], text)
termination_by text.length

/-- A rule as often as it succeeds. -/
def many (rule : Rule α) : Rule (List α) := fun text =>
  some (readAll rule text)

/-- What a rule reads that reaches the end of the text. -/
def whole (rule : Rule α) (text : Text) : Option α :=
  match rule text with
  | some (value, []) => some value
  | _ => none

theorem bind_apply
    (rule : Rule α)
    (next : α → Rule β)
    (text : Text) :
    (rule >>= next) text = (rule text).bind fun result => next result.1 result.2 :=
  rfl

theorem bind_eq_some_iff
    {rule : Rule α}
    {next : α → Rule β}
    {text rest : Text}
    {value : β} :
    (rule >>= next) text = some (value, rest) ↔
      ∃ first mid, rule text = some (first, mid) ∧ next first mid = some (value, rest) := by
  rw [bind_apply, Option.bind_eq_some_iff, Prod.exists]

theorem orElse_apply
    (first second : Rule α)
    (text : Text) :
    (first <|> second) text = (first text).or (second text) := by
  change ((first text).orElse fun _ => second text) = _
  cases first text <;> rfl

theorem whole_eq_some_iff
    {rule : Rule α}
    {text : Text}
    {value : α} :
    rule.whole text = some value ↔ rule text = some (value, []) := by
  rw [whole]
  split <;> simp_all

theorem literal_eq_some_iff
    {s text rest : Text}
    {u : Unit} :
    literal s text = some (u, rest) ↔ text = s ++ rest := by
  rw [literal, Option.map_eq_some_iff]
  constructor
  · rintro ⟨other, hother, heq⟩
    obtain ⟨front, rfl, hfront⟩ := List.dropPrefix?_eq_some_iff.mp hother
    rw [eq_of_beq hfront, (Prod.mk.inj heq).2]
  · rintro rfl
    exact ⟨rest, List.dropPrefix?_append_of_beq rest (beq_self_eq_true s), rfl⟩

theorem separator_apply
    (c : Char)
    (text : Text) :
    separator c text =
      ((text.dropWhile isSpace).dropPrefix? [c]).map fun rest => ((), rest.dropWhile isSpace) := by
  change ((literal [c] (text.dropWhile isSpace)).bind fun result => spaces result.2) = _
  rw [literal]
  cases (text.dropWhile isSpace).dropPrefix? [c] <;> rfl

theorem separator_append
    {c : Char}
    {before after rest : Text}
    (hc : isSpace c = false)
    (hbefore : Spaces before)
    (hafter : Spaces after)
    (hrest : Stops isSpace rest) :
    separator c (before ++ c :: (after ++ rest)) = some ((), rest) := by
  have hstop : Stops isSpace (c :: (after ++ rest)) := stops_cons.mpr hc
  have hliteral : List.dropPrefix? (c :: (after ++ rest)) [c] = some (after ++ rest) :=
    List.dropPrefix?_append_of_beq (after ++ rest) (beq_self_eq_true [c])
  rw [separator_apply, dropWhile_append_of_within (within_isSpace_iff.mpr hbefore) hstop, hliteral,
    Option.map_some, dropWhile_append_of_within (within_isSpace_iff.mpr hafter) hrest]

theorem exists_of_separator
    {c : Char}
    {text rest : Text}
    {u : Unit}
    (h : separator c text = some (u, rest)) :
    ∃ before after, text = before ++ c :: (after ++ rest) ∧ Spaces before ∧ Spaces after := by
  rw [separator_apply] at h
  obtain ⟨behind, hbehind, heq⟩ := Option.map_eq_some_iff.mp h
  obtain ⟨front, htext, hfront⟩ := List.dropPrefix?_eq_some_iff.mp hbehind
  obtain ⟨-, rfl⟩ := Prod.mk.inj heq
  rw [eq_of_beq hfront] at htext
  refine ⟨text.takeWhile isSpace, behind.takeWhile isSpace, ?_,
    within_isSpace_iff.mp (within_takeWhile _ _), within_isSpace_iff.mp (within_takeWhile _ _)⟩
  rw [List.takeWhile_append_dropWhile, ← List.singleton_append, ← htext,
    List.takeWhile_append_dropWhile]

theorem separator_eq_none
    {c : Char}
    {text : Text}
    (h : (text.dropWhile isSpace).head? ≠ some c) :
    separator c text = none := by
  rw [separator_apply, Option.map_eq_none_iff, Option.eq_none_iff_forall_ne_some]
  intro rest hrest
  obtain ⟨front, htext, hfront⟩ := List.dropPrefix?_eq_some_iff.mp hrest
  rw [htext, eq_of_beq hfront] at h
  exact h rfl

end Parts

end Rule

theorem Edged.stops_append
    {text : Text}
    (h : Edged text)
    (rest : Text) :
    Stops isSpace (text ++ rest) := by
  refine h.tight.1.append ?_ rest
  rintro rfl
  obtain ⟨⟨c, hc, -⟩, -⟩ := h
  cases hc

namespace OperandRules

open Rule RegisterName Operand Transfer

section Rules

/-- A register that ends a word. -/
def register : Rule RegisterName
  | letter :: digit :: rest =>
      if wordBoundary (some digit) rest.head? then (ofChars? letter digit).map fun name => (name, rest)
      else none
  | _ => none

/-- A range of registers. -/
def range : Rule Entry := do
  let first ← register
  separator '-'
  let last ← register
  return .range first last

/-- An entry of a list: a range, or else a register. -/
def entry : Rule Entry :=
  range <|> do return .single (← register)

/-- A further entry of a list. -/
def furtherEntry : Rule Entry := do
  separator '/'
  entry

/-- A register list. -/
def list : Rule (List Entry) := do
  let first ← entry
  let rest ← many furtherEntry
  return first :: rest

/-- The stack pointer. -/
def stackPointer : Rule Unit
  | c :: d :: rest => if isStackPointer c d then some ((), rest) else none
  | _ => none

/-- The stack pointer with optional spaces around it. -/
def pointer : Rule Unit := do
  spaces
  stackPointer
  spaces

/-- A push. -/
def push : Rule Unit := do
  literal ['-', '(']
  pointer
  literal [')']

/-- A pop. -/
def pop : Rule Unit := do
  literal ['(']
  pointer
  literal [')', '+']

/-- A transfer to the stack. -/
def save : Rule Transfer := do
  let entries ← list
  separator ','
  push
  return .save entries

/-- A transfer from the stack. -/
def restore : Rule Transfer := do
  pop
  separator ','
  let entries ← list
  return .restore entries

/-- A transfer: to the stack, or else from it. -/
def transfer : Rule Transfer :=
  save <|> restore

end Rules

section Registers

theorem register_cons_cons
    (letter digit : Char)
    (rest : Text) :
    register (letter :: digit :: rest) =
      if endsWord rest.head? then none
      else (ofChars? letter digit).map fun name => (name, rest) := by
  cases hchars : ofChars? letter digit with
  | none =>
      simp [register, hchars]
  | some name =>
      have hdigit : endsWord (some digit) = true := (isWordChar_of_ofChars? hchars).2
      rw [register, hchars, wordBoundary, hdigit]
      cases endsWord rest.head? <;> rfl

/-- A register is read exactly where it stands at the front and no word goes on behind it. -/
theorem register_eq_some_iff
    {text rest : Text}
    {name : RegisterName} :
    register text = some (name, rest) ↔
      ∃ token, text = token ++ rest ∧ Token token name ∧ endsWord rest.head? = false := by
  constructor
  · intro h
    rcases text with _ | ⟨letter, _ | ⟨digit, behind⟩⟩
    · cases h
    · cases h
    · rw [register_cons_cons] at h
      split at h
      · cases h
      · next hword =>
          obtain ⟨other, hchars, heq⟩ := Option.map_eq_some_iff.mp h
          obtain ⟨rfl, rfl⟩ := Prod.mk.inj heq
          exact ⟨[letter, digit], rfl, ofText?_eq_some_iff.mp hchars, by simpa using hword⟩
  · rintro ⟨token, rfl, htoken, hrest⟩
    have hname := ofText?_eq_some_iff.mpr htoken
    obtain ⟨letter, rfl, -⟩ := htoken
    change register (letter :: Nat.digitChar name.number :: rest) = _
    change ofChars? letter (Nat.digitChar name.number) = some name at hname
    rw [register_cons_cons, hrest, hname]
    rfl

/-- What may follow a part of a field: no word goes on, and behind spaces none of the given characters
stands. -/
def Closes (excluded : List Char) (rest : Text) : Prop :=
  endsWord rest.head? = false ∧ ∀ c ∈ (rest.dropWhile isSpace).head?, c ∉ excluded

theorem closes_nil
    (excluded : List Char) :
    Closes excluded [] := by
  simp [Closes, endsWord]

/-- Spaces and a character that is no word character close a part. -/
theorem closes_append_cons
    {excluded : List Char}
    {before : Text}
    {c : Char}
    (hbefore : Spaces before)
    (hspace : isSpace c = false)
    (hword : isWordChar c = false)
    (hc : c ∉ excluded)
    (rest : Text) :
    Closes excluded (before ++ c :: rest) := by
  constructor
  · cases before with
    | nil =>
        exact hword
    | cons d before =>
        rcases hbefore d List.mem_cons_self with rfl | rfl <;> rfl
  · rw [dropWhile_append_of_within (within_isSpace_iff.mpr hbefore) (stops_cons.mpr hspace)]
    rintro d ⟨rfl⟩
    exact hc

theorem Closes.mono
    {excluded fewer : List Char}
    {rest : Text}
    (h : Closes excluded rest)
    (hsub : fewer ⊆ excluded) :
    Closes fewer rest :=
  ⟨h.1, fun c hc hmem => h.2 c hc (hsub hmem)⟩

theorem Closes.separator_eq_none
    {excluded : List Char}
    {rest : Text}
    {c : Char}
    (h : Closes excluded rest)
    (hc : c ∈ excluded) :
    separator c rest = none :=
  Rule.separator_eq_none fun hhead => h.2 c hhead hc

end Registers

section Entries

theorem range_sound
    {text rest : Text}
    {found : Entry}
    (h : range text = some (found, rest)) :
    ∃ core, text = core ++ rest ∧ EntryText core found ∧ endsWord rest.head? = false := by
  obtain ⟨first, mid, hfirst, h⟩ := bind_eq_some_iff.mp h
  obtain ⟨u, behind, hdash, h⟩ := bind_eq_some_iff.mp h
  obtain ⟨last, other, hlast, hpure⟩ := bind_eq_some_iff.mp h
  obtain ⟨rfl, rfl⟩ := Prod.mk.inj (Option.some.inj hpure)
  obtain ⟨left, rfl, hleft, -⟩ := register_eq_some_iff.mp hfirst
  obtain ⟨before, after, rfl, hbefore, hafter⟩ := exists_of_separator hdash
  obtain ⟨right, rfl, hright, hword⟩ := register_eq_some_iff.mp hlast
  exact ⟨_, by simp, .range hleft hbefore hafter hright, hword⟩

theorem entry_sound
    {text rest : Text}
    {found : Entry}
    (h : entry text = some (found, rest)) :
    ∃ core, text = core ++ rest ∧ EntryText core found ∧ endsWord rest.head? = false := by
  rw [entry, orElse_apply, Option.or_eq_some_iff] at h
  rcases h with hrange | ⟨-, hsingle⟩
  · exact range_sound hrange
  · obtain ⟨name, other, hname, hpure⟩ := bind_eq_some_iff.mp hsingle
    obtain ⟨rfl, rfl⟩ := Prod.mk.inj (Option.some.inj hpure)
    obtain ⟨token, rfl, htoken, hword⟩ := register_eq_some_iff.mp hname
    exact ⟨token, rfl, .single htoken, hword⟩

/-- An entry is read off the front where no range goes on behind it. -/
theorem entry_complete
    {core rest : Text}
    {found : Entry}
    (h : EntryText core found)
    (hrest : Closes ['-'] rest) :
    entry (core ++ rest) = some (found, rest) := by
  rw [entry, orElse_apply]
  cases h with
  | @single _ name token =>
      have hname : register (core ++ rest) = some (name, rest) :=
        register_eq_some_iff.mpr ⟨core, rfl, token, hrest.1⟩
      have hrange : range (core ++ rest) = none := by
        rw [range, bind_apply, hname, Option.bind_some, bind_apply,
          hrest.separator_eq_none List.mem_cons_self, Option.bind_none]
      rw [hrange, Option.none_or, bind_apply, hname]
      rfl
  | @range left right before after first last leftToken beforeSpaces afterSpaces rightToken =>
      have hclose : Closes [] (before ++ '-' :: (after ++ (right ++ rest))) :=
        closes_append_cons beforeSpaces rfl (by decide) List.not_mem_nil _
      have hfirst := register_eq_some_iff.mpr ⟨left, rfl, leftToken, hclose.1⟩
      have hdash : separator '-' (before ++ '-' :: (after ++ (right ++ rest))) =
          some ((), right ++ rest) :=
        separator_append rfl beforeSpaces afterSpaces
          (rightToken.edged.stops_append rest)
      have hlast := register_eq_some_iff.mpr ⟨right, rfl, rightToken, hrest.1⟩
      have htext : left ++ before ++ '-' :: (after ++ right) ++ rest =
          left ++ (before ++ '-' :: (after ++ (right ++ rest))) := by simp
      rw [htext, OperandRules.range, bind_apply, hfirst, Option.bind_some, bind_apply, hdash,
        Option.bind_some, bind_apply, hlast]
      rfl

end Entries

section Lists

theorem furtherEntry_sound
    {text rest : Text}
    {found : Entry}
    (h : furtherEntry text = some (found, rest)) :
    ∃ before after core, text = before ++ '/' :: (after ++ (core ++ rest)) ∧ Spaces before ∧
      Spaces after ∧ EntryText core found := by
  obtain ⟨u, mid, hslash, hentry⟩ := bind_eq_some_iff.mp h
  obtain ⟨before, after, rfl, hbefore, hafter⟩ := exists_of_separator hslash
  obtain ⟨core, rfl, hform, -⟩ := entry_sound hentry
  exact ⟨before, after, core, rfl, hbefore, hafter, hform⟩

/-- An entry and what is read behind it make up a list. -/
theorem readAll_sound
    {core : Text}
    {found : Entry}
    (h : EntryText core found)
    (text : Text) :
    ∃ list, core ++ text = list ++ (readAll furtherEntry text).2 ∧
      ListText list (found :: (readAll furtherEntry text).1) := by
  fun_induction readAll furtherEntry text generalizing core found with
  | case1 text hnone =>
      exact ⟨core, rfl, .last h⟩
  | case2 text next rest hnext hshort ih =>
      obtain ⟨before, after, other, rfl, hbefore, hafter, hform⟩ := furtherEntry_sound hnext
      obtain ⟨list, hlist, hmore⟩ := ih hform
      refine ⟨core ++ before ++ '/' :: (after ++ list), ?_, .more h hbefore hafter hmore⟩
      simp [hlist]
  | case3 text next rest hnext hlong =>
      exact ⟨core, rfl, .last h⟩

theorem list_sound
    {text rest : Text}
    {entries : List Entry}
    (h : list text = some (entries, rest)) :
    ∃ core, text = core ++ rest ∧ ListText core entries := by
  obtain ⟨first, mid, hfirst, h⟩ := bind_eq_some_iff.mp h
  obtain ⟨later, other, hmany, hpure⟩ := bind_eq_some_iff.mp h
  obtain ⟨rfl, rfl⟩ := Prod.mk.inj (Option.some.inj hpure)
  obtain ⟨core, rfl, hform, -⟩ := entry_sound hfirst
  obtain ⟨list, hlist, hentries⟩ := readAll_sound hform mid
  rw [Option.some.inj hmany] at hlist hentries
  exact ⟨list, hlist, hentries⟩

/-- A list is read off the front where neither its last entry nor the list goes on behind it. -/
theorem list_complete
    {core rest : Text}
    {entries : List Entry}
    (h : ListText core entries)
    (hrest : Closes ['-', '/'] rest) :
    list (core ++ rest) = some (entries, rest) := by
  induction h with
  | @last core found form =>
      have hfirst := entry_complete form (hrest.mono (by simp))
      have hmore : furtherEntry rest = none := by
        rw [furtherEntry, bind_apply, hrest.separator_eq_none (by simp), Option.bind_none]
      have hmany : many furtherEntry rest = some ([], rest) := by
        rw [many, readAll, hmore]
      rw [list, bind_apply, hfirst, Option.bind_some, bind_apply, hmany]
      rfl
  | @more core before after later found entries form beforeSpaces afterSpaces restForm ih =>
      obtain ⟨first, mid, hentry, htail⟩ := bind_eq_some_iff.mp ih
      obtain ⟨others, rest, hmany, hpure⟩ := bind_eq_some_iff.mp htail
      obtain ⟨rfl, rfl⟩ := Prod.mk.inj (Option.some.inj hpure)
      have hclose : Closes ['-'] (before ++ '/' :: (after ++ (later ++ rest))) :=
        closes_append_cons beforeSpaces rfl (by decide) (by decide) _
      have hfirst := entry_complete form hclose
      have hslash : separator '/' (before ++ '/' :: (after ++ (later ++ rest))) =
          some ((), later ++ rest) :=
        separator_append rfl beforeSpaces afterSpaces (restForm.edged.stops_append rest)
      have hnext : furtherEntry (before ++ '/' :: (after ++ (later ++ rest))) =
          some (first, mid) := by
        rw [furtherEntry, bind_apply, hslash, Option.bind_some]
        exact hentry
      have hshort : mid.length < (before ++ '/' :: (after ++ (later ++ rest))).length := by
        obtain ⟨front, hfront, -⟩ := entry_sound hentry
        have hlength := congrArg List.length hfront
        simp only [List.length_append, List.length_cons] at hlength ⊢
        omega
      have hall : many furtherEntry (before ++ '/' :: (after ++ (later ++ rest))) =
          some (first :: others, rest) := by
        rw [many, readAll, hnext]
        simp only [hshort, if_true, Option.some.inj hmany]
      have htext : core ++ before ++ '/' :: (after ++ later) ++ rest =
          core ++ (before ++ '/' :: (after ++ (later ++ rest))) := by simp
      rw [htext, list, bind_apply, hfirst, Option.bind_some, bind_apply, hall]
      rfl

end Lists

section Transfers

theorem pointer_apply
    (text : Text) :
    pointer text = (afterStackPointer? isSpace text).map fun rest => ((), rest) := by
  change ((stackPointer (text.dropWhile isSpace)).bind fun result => spaces result.2) = _
  rw [afterStackPointer?]
  rcases text.dropWhile isSpace with _ | ⟨c, _ | ⟨d, rest⟩⟩
  · rfl
  · rfl
  · cases hpointer : isStackPointer c d <;> simp [stackPointer, hpointer, spaces]

/-- The stack pointer is read up to a closing parenthesis exactly where it stands in front of one. -/
theorem pointer_eq_some_iff
    {text rest : Text}
    {u : Unit} :
    pointer text = some (u, ')' :: rest) ↔ ∃ inner, text = inner ++ rest ∧ Enclosed inner := by
  rw [← afterStackPointer?_eq_iff, pointer_apply, Option.map_eq_some_iff]
  constructor
  · rintro ⟨behind, hbehind, heq⟩
    rw [hbehind, (Prod.mk.inj heq).2]
  · intro h
    exact ⟨_, h, rfl⟩

theorem push_eq_some_iff
    {text rest : Text}
    {u : Unit} :
    push text = some (u, rest) ↔ ∃ core, text = core ++ rest ∧ PushText core := by
  simp only [push, bind_eq_some_iff, literal_eq_some_iff]
  constructor
  · rintro ⟨_, inside, rfl, _, behind, hpointer, rfl⟩
    obtain ⟨inner, rfl, hinner⟩ := pointer_eq_some_iff.mp hpointer
    exact ⟨'-' :: '(' :: inner, rfl, inner, rfl, hinner⟩
  · rintro ⟨_, rfl, inner, rfl, hinner⟩
    have hpointer : pointer (inner ++ rest) = some ((), ')' :: rest) :=
      pointer_eq_some_iff.mpr ⟨inner, rfl, hinner⟩
    exact ⟨(), inner ++ rest, rfl, (), ')' :: rest, hpointer, rfl⟩

theorem pop_eq_some_iff
    {text rest : Text}
    {u : Unit} :
    pop text = some (u, rest) ↔ ∃ core, text = core ++ rest ∧ PopText core := by
  simp only [pop, bind_eq_some_iff, literal_eq_some_iff]
  constructor
  · rintro ⟨_, inside, rfl, _, behind, hpointer, rfl⟩
    obtain ⟨inner, rfl, hinner⟩ := pointer_eq_some_iff.mp hpointer
    exact ⟨'(' :: (inner ++ ['+']), by simp, inner, rfl, hinner⟩
  · rintro ⟨_, rfl, inner, rfl, hinner⟩
    have hpointer : pointer (inner ++ '+' :: rest) = some ((), ')' :: '+' :: rest) :=
      pointer_eq_some_iff.mpr ⟨inner, rfl, hinner⟩
    exact ⟨(), inner ++ '+' :: rest, by simp, (), ')' :: '+' :: rest, hpointer, rfl⟩

theorem save_sound
    {text rest : Text}
    {found : Transfer}
    (h : save text = some (found, rest)) :
    ∃ core, text = core ++ rest ∧ TransferText core found := by
  obtain ⟨entries, mid, hlist, h⟩ := bind_eq_some_iff.mp h
  obtain ⟨_, behind, hcomma, h⟩ := bind_eq_some_iff.mp h
  obtain ⟨_, other, hpush, hpure⟩ := bind_eq_some_iff.mp h
  obtain ⟨rfl, rfl⟩ := Prod.mk.inj (Option.some.inj hpure)
  obtain ⟨list, rfl, hentries⟩ := list_sound hlist
  obtain ⟨before, after, rfl, hbefore, hafter⟩ := exists_of_separator hcomma
  obtain ⟨target, rfl, htarget⟩ := push_eq_some_iff.mp hpush
  exact ⟨_, by simp, .save hentries hbefore hafter htarget⟩

theorem restore_sound
    {text rest : Text}
    {found : Transfer}
    (h : restore text = some (found, rest)) :
    ∃ core, text = core ++ rest ∧ TransferText core found := by
  obtain ⟨_, mid, hpop, h⟩ := bind_eq_some_iff.mp h
  obtain ⟨_, behind, hcomma, h⟩ := bind_eq_some_iff.mp h
  obtain ⟨entries, other, hlist, hpure⟩ := bind_eq_some_iff.mp h
  obtain ⟨rfl, rfl⟩ := Prod.mk.inj (Option.some.inj hpure)
  obtain ⟨source, rfl, hsource⟩ := pop_eq_some_iff.mp hpop
  obtain ⟨before, after, rfl, hbefore, hafter⟩ := exists_of_separator hcomma
  obtain ⟨list, rfl, hentries⟩ := list_sound hlist
  exact ⟨_, by simp, .restore hsource hbefore hafter hentries⟩

/-- What starts with an opening parenthesis is no transfer to the stack. -/
theorem save_pop_append
    {pop : Text}
    (h : PopText pop)
    (rest : Text) :
    save (pop ++ rest) = none := by
  rw [Option.eq_none_iff_forall_ne_some]
  rintro ⟨found, behind⟩ hsave
  obtain ⟨entries, mid, hlist, -⟩ := bind_eq_some_iff.mp hsave
  obtain ⟨core, hcore, hentries⟩ := list_sound hlist
  obtain ⟨⟨c, hc, hletter⟩, -⟩ := hentries.edged
  obtain ⟨inner, rfl, -⟩ := h
  obtain ⟨tail, rfl⟩ := List.head?_eq_some_iff.mp hc
  obtain ⟨rfl, -⟩ := List.cons.inj hcore
  exact absurd hletter (by decide)

/-- The rule accepts a written transfer. -/
theorem transfer_complete
    {text : Text}
    {found : Transfer}
    (h : TransferText text found) :
    transfer text = some (found, []) := by
  rw [transfer, orElse_apply]
  cases h with
  | @save list before after push entries listForm beforeSpaces afterSpaces pushForm =>
      have hclose : Closes ['-', '/'] (before ++ ',' :: (after ++ push)) :=
        closes_append_cons beforeSpaces rfl (by decide) (by decide) _
      have hlist := list_complete listForm hclose
      have hcomma : separator ',' (before ++ ',' :: (after ++ push)) = some ((), push) :=
        separator_append rfl beforeSpaces afterSpaces pushForm.tight.1
      have hpush : OperandRules.push push = some ((), []) :=
        push_eq_some_iff.mpr ⟨push, by simp, pushForm⟩
      rw [List.append_assoc, OperandRules.save, bind_apply, hlist, Option.bind_some, bind_apply,
        hcomma, Option.bind_some, bind_apply, hpush]
      rfl
  | @restore pop before after list entries popForm beforeSpaces afterSpaces listForm =>
      have hpop : OperandRules.pop (pop ++ (before ++ ',' :: (after ++ list))) =
          some ((), before ++ ',' :: (after ++ list)) :=
        pop_eq_some_iff.mpr ⟨pop, rfl, popForm⟩
      have hcomma : separator ',' (before ++ ',' :: (after ++ list)) = some ((), list) :=
        separator_append rfl beforeSpaces afterSpaces listForm.edged.tight.1
      have hlist : OperandRules.list list = some (entries, []) := by
        simpa using list_complete listForm (closes_nil _)
      rw [List.append_assoc, save_pop_append popForm, Option.none_or, OperandRules.restore,
        bind_apply, hpop, Option.bind_some, bind_apply, hcomma, Option.bind_some, bind_apply, hlist]
      rfl

end Transfers

section Wholes

/-- The rule for lists accepts exactly the written lists. -/
theorem whole_list_iff
    {text : Text}
    {entries : List Entry} :
    list.whole text = some entries ↔ ListText text entries := by
  rw [whole_eq_some_iff]
  constructor
  · intro h
    obtain ⟨core, rfl, hentries⟩ := list_sound h
    rwa [List.append_nil]
  · intro h
    simpa using list_complete h (closes_nil _)

/-- The rule for transfers accepts exactly the written transfers. -/
theorem whole_transfer_iff
    {text : Text}
    {found : Transfer} :
    transfer.whole text = some found ↔ TransferText text found := by
  rw [whole_eq_some_iff]
  constructor
  · intro h
    rw [transfer, orElse_apply, Option.or_eq_some_iff] at h
    obtain ⟨core, rfl, hform⟩ : ∃ core, text = core ++ [] ∧ TransferText core found := by
      rcases h with hsave | ⟨-, hrestore⟩
      · exact save_sound hsave
      · exact restore_sound hrestore
    rwa [List.append_nil]
  · exact transfer_complete

end Wholes

end OperandRules

/-- **Lists by rules.**  The reader of register lists gives what the rule for lists gives on the text
without the blanks around it. -/
theorem RegisterList.parse?_eq_rule
    (text : Text) :
    RegisterList.parse? text = OperandRules.list.whole text.trim := by
  refine Option.ext fun entries => ?_
  rw [RegisterList.parse?, entries?_trim_iff, OperandRules.whole_list_iff]

/-- **Transfers by rules.**  The reader of transfers gives what the rule for transfers gives on the
field without the blanks around it. -/
theorem Transfer.parse?_eq_rule
    (field : Text) :
    Transfer.parse? field = OperandRules.transfer.whole field.trim := by
  refine Option.ext fun found => ?_
  rw [Transfer.parse?_eq_some_iff, OperandRules.whole_transfer_iff]

end CalleeSaved
