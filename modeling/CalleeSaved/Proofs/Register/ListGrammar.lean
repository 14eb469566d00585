import CalleeSaved.Proofs.Text.Scan
import CalleeSaved.Register.List

/-!
# The grammar of register lists

A register list is read by cutting the text at every slash, each piece at its dash, and trimming
what is left.  This module compares the reader with a grammar of register lists, and the registers
of a list with what its entries say.

**Grammar.**  `Token` is a register as it is written, `EntryText` an entry and `ListText` a list,
each with its meaning.  The reader also accepts spaces around each of them, which `Padded` adds.

**Registers.**  `Entry.Denotes` says which registers an entry stands for, by family and number.

**Results.**
* `entries?_eq_some_iff`: the reader accepts exactly the written lists, with spaces around them.
* `mem_registers_iff`: the registers of a list of entries.
-/

namespace CalleeSaved

open Text

/-- The character is the letter of the family, in either case. -/
def Family.HasLetter : Family → Char → Prop
  | .data, c => c = 'D' ∨ c = 'd'
  | .address, c => c = 'A' ∨ c = 'a'

theorem Family.ofLetter?_eq_some_iff
    {c : Char}
    {family : Family} :
    ofLetter? c = some family ↔ family.HasLetter c := by
  unfold ofLetter?
  split <;> cases family <;> simp_all [HasLetter]

namespace RegisterName

/-- The text is the letter of a family and a digit from 0 to 7, and names that register. -/
def Token (text : Text) (name : RegisterName) : Prop :=
  ∃ letter, text = [letter, Nat.digitChar name.number] ∧ name.family.HasLetter letter

theorem digit?_eq_some_iff
    {c : Char}
    {number : Fin 8} :
    digit? c = some number ↔ c = Nat.digitChar number := by
  have hread : ∀ n : Fin 8, digit? (Nat.digitChar n) = some n := by decide
  have hchar : ∀ n : Fin 8, Char.ofNat ('0'.toNat + n) = Nat.digitChar n := by decide
  constructor
  · intro h
    unfold digit? at h
    split at h
    · next hdigit =>
        obtain rfl := Option.some.inj h
        have hlow : '0'.toNat ≤ c.toNat := UInt32.le_iff_toNat_le.mp hdigit.1
        rw [← hchar, Nat.add_sub_cancel' hlow, Char.ofNat_toNat]
    · simp at h
  · rintro rfl
    exact hread number

theorem ofText?_eq_some_iff
    {text : Text}
    {name : RegisterName} :
    ofText? text = some name ↔ Token text name := by
  obtain ⟨family, number⟩ := name
  have hchars (letter digit : Char) :
      ofChars? letter digit = some ⟨family, number⟩ ↔
        family.HasLetter letter ∧ digit = Nat.digitChar number := by
    simp [ofChars?, Option.bind_eq_some_iff, Family.ofLetter?_eq_some_iff, digit?_eq_some_iff]
  constructor
  · intro h
    unfold ofText? at h
    split at h
    · next letter digit =>
        obtain ⟨hletter, rfl⟩ := (hchars letter digit).mp h
        exact ⟨letter, rfl, hletter⟩
    · simp at h
  · rintro ⟨letter, rfl, hletter⟩
    exact (hchars letter _).mpr ⟨hletter, rfl⟩

theorem Token.isAlphanum
    {text : Text}
    {name : RegisterName}
    (h : Token text name) :
    ∀ c ∈ text, c.isAlphanum = true := by
  obtain ⟨letter, rfl, hletter⟩ := h
  have hdigit : ∀ n : Fin 8, (Nat.digitChar n).isAlphanum = true := by decide
  intro c hc
  simp only [List.mem_cons, List.not_mem_nil, or_false] at hc
  rcases hc with rfl | rfl
  · cases hfamily : name.family <;> rw [hfamily] at hletter <;>
      rcases hletter with rfl | rfl <;> decide
  · exact hdigit name.number

theorem register?_eq_some_iff
    {name : RegisterName}
    {r : Register} :
    name.register? = some r ↔ r.family = name.family ∧ r.number = name.number := by
  obtain ⟨family, number⟩ := name
  cases family with
  | data =>
      cases r <;> simp [register?, Register.family, Register.number, Fin.ext_iff, eq_comm]
  | address =>
      cases r with
      | d n =>
          simp [register?, Register.family]
      | a n =>
          simp [register?, Register.family, Register.number, Fin.ext_iff, eq_comm]
          omega

end RegisterName

/-- A form with spaces around it. -/
def Padded {α : Type} (form : Text → α → Prop) (text : Text) (value : α) : Prop :=
  ∃ lead core tail, text = lead ++ core ++ tail ∧ Spaces lead ∧ Spaces tail ∧ form core value

/-- The text starts and ends with a letter or a digit. -/
def Edged (text : Text) : Prop :=
  (∃ c ∈ text.head?, c.isAlphanum = true) ∧ ∃ c ∈ text.getLast?, c.isAlphanum = true

namespace Edged

theorem append
    {first last : Text}
    (hfirst : Edged first)
    (hlast : Edged last)
    (mid : Text) :
    Edged (first ++ (mid ++ last)) := by
  obtain ⟨⟨c, hc, hcn⟩, -⟩ := hfirst
  obtain ⟨-, d, hd, hdn⟩ := hlast
  refine ⟨⟨c, ?_, hcn⟩, d, ?_, hdn⟩
  · simp_all
  · simp_all

theorem tight
    {text : Text}
    (h : Edged text) :
    Tight text := by
  have hclass {c : Char} (hc : c.isAlphanum = true) : isSpace c = false := by
    by_contra hspace
    rcases isSpace_iff.mp (by simpa using hspace) with rfl | rfl <;> exact absurd hc (by decide)
  obtain ⟨⟨c, hc, hcn⟩, d, hd, hdn⟩ := h
  constructor
  · intro e he
    obtain rfl := Option.some.inj (hc.symm.trans he)
    exact hclass hcn
  · intro e he
    rw [List.head?_reverse] at he
    obtain rfl := Option.some.inj (hd.symm.trans he)
    exact hclass hdn

end Edged

theorem RegisterName.Token.edged
    {text : Text}
    {name : RegisterName}
    (h : RegisterName.Token text name) :
    Edged text := by
  have hchars := h.isAlphanum
  obtain ⟨letter, rfl, -⟩ := h
  exact ⟨⟨_, rfl, hchars _ (by simp)⟩, _, rfl, hchars _ (by simp)⟩

theorem RegisterName.ofText?_trimSpaces_iff
    {text : Text}
    {name : RegisterName} :
    RegisterName.ofText? (trimSpaces text) = some name ↔ Padded RegisterName.Token text name := by
  rw [RegisterName.ofText?_eq_some_iff]
  constructor
  · intro h
    obtain ⟨lead, tail, htext, hlead, htail⟩ := trimSpaces_split text
    exact ⟨lead, _, tail, htext, hlead, htail, h⟩
  · rintro ⟨lead, core, tail, rfl, hlead, htail, htoken⟩
    rwa [htoken.edged.tight.trimSpaces_eq hlead htail]

namespace RegisterList

open RegisterName

section Entries

/-- An entry as it is written: a register, or two of them with a dash and optional spaces between
them. -/
inductive EntryText : Text → Entry → Prop
  | single {text : Text} {name : RegisterName} (token : Token text name) :
      EntryText text (.single name)
  | range {left right before after : Text} {first last : RegisterName}
      (leftToken : Token left first) (beforeSpaces : Spaces before) (afterSpaces : Spaces after)
      (rightToken : Token right last) :
      EntryText (left ++ before ++ '-' :: (after ++ right)) (.range first last)

theorem EntryText.edged
    {text : Text}
    {entry : Entry}
    (h : EntryText text entry) :
    Edged text := by
  cases h with
  | single token =>
      exact token.edged
  | @range left right before after first last leftToken _ _ rightToken =>
      simpa using leftToken.edged.append rightToken.edged (before ++ '-' :: after)

theorem EntryText.chars
    {text : Text}
    {entry : Entry}
    (h : EntryText text entry) :
    ∀ c ∈ text, c.isAlphanum = true ∨ (c = ' ' ∨ c = '\t') ∨ c = '-' := by
  cases h with
  | single token =>
      exact fun c hc => Or.inl (token.isAlphanum c hc)
  | range leftToken beforeSpaces afterSpaces rightToken =>
      intro c hc
      simp only [List.mem_append, List.mem_cons] at hc
      rcases hc with (hc | hc) | rfl | hc | hc
      · exact Or.inl (leftToken.isAlphanum c hc)
      · exact Or.inr (Or.inl (beforeSpaces c hc))
      · exact Or.inr (Or.inr rfl)
      · exact Or.inr (Or.inl (afterSpaces c hc))
      · exact Or.inl (rightToken.isAlphanum c hc)

/-- A padded register has no dash. -/
theorem dash_not_mem
    {lead text tail : Text}
    {name : RegisterName}
    (hlead : Spaces lead)
    (htoken : Token text name)
    (htail : Spaces tail) :
    '-' ∉ lead ++ text ++ tail := by
  simp only [List.mem_append, not_or]
  refine ⟨⟨hlead.not_mem rfl, fun h => ?_⟩, htail.not_mem rfl⟩
  exact absurd (htoken.isAlphanum _ h) (by decide)

theorem ofText?_eq_some_iff
    {text : Text}
    {entry : Entry} :
    Entry.ofText? text = some entry ↔ Padded EntryText text entry := by
  constructor
  · intro h
    unfold Entry.ofText? at h
    split at h
    · next name hsplit =>
        have htext : text = name := by
          have hjoin : ['-'].intercalate (text.splitOn '-') = text := List.intercalate_splitOn '-'
          simpa [hsplit] using hjoin.symm
        obtain ⟨register, hregister, rfl⟩ := Option.map_eq_some_iff.mp h
        obtain ⟨lead, core, tail, rfl, hlead, htail, htoken⟩ := ofText?_trimSpaces_iff.mp hregister
        exact ⟨lead, core, tail, htext, hlead, htail, .single htoken⟩
    · next left right hsplit =>
        obtain rfl := eq_of_splitOn_eq_pair hsplit
        simp only [Option.bind_eq_bind, Option.bind_eq_some_iff, Option.pure_def,
          Option.some.injEq] at h
        obtain ⟨first, hfirst, last, hlast, rfl⟩ := h
        obtain ⟨lead, left, before, rfl, hlead, hbefore, hleft⟩ :=
          ofText?_trimSpaces_iff.mp hfirst
        obtain ⟨after, right, tail, rfl, hafter, htail, hright⟩ :=
          ofText?_trimSpaces_iff.mp hlast
        exact ⟨lead, _, tail, by simp, hlead, htail, .range hleft hbefore hafter hright⟩
    · simp at h
  · rintro ⟨lead, core, tail, rfl, hlead, htail, hform⟩
    cases hform with
    | single token =>
        have hname := ofText?_trimSpaces_iff.mpr ⟨lead, core, tail, rfl, hlead, htail, token⟩
        simp only [Entry.ofText?, List.splitOn_eq_singleton (dash_not_mem hlead token htail), hname,
          Option.map_some]
    | @range left right before after first last leftToken beforeSpaces afterSpaces rightToken =>
        have hfirst := ofText?_trimSpaces_iff.mpr
          ⟨lead, left, before, rfl, hlead, beforeSpaces, leftToken⟩
        have hlast := ofText?_trimSpaces_iff.mpr
          ⟨after, right, tail, rfl, afterSpaces, htail, rightToken⟩
        have hsplit := splitOn_pair (dash_not_mem hlead leftToken beforeSpaces)
          (dash_not_mem afterSpaces rightToken htail)
        have hjoin : lead ++ (left ++ before ++ '-' :: (after ++ right)) ++ tail =
            lead ++ left ++ before ++ '-' :: (after ++ right ++ tail) := by simp
        simp only [Entry.ofText?, hjoin, hsplit, hfirst, hlast]
        rfl

end Entries

section Lists

/-- A list as it is written: entries with slashes and optional spaces between them. -/
inductive ListText : Text → List Entry → Prop
  | last {text : Text} {entry : Entry} (form : EntryText text entry) : ListText text [entry]
  | more {text before after rest : Text} {entry : Entry} {entries : List Entry}
      (form : EntryText text entry) (beforeSpaces : Spaces before) (afterSpaces : Spaces after)
      (restForm : ListText rest entries) :
      ListText (text ++ before ++ '/' :: (after ++ rest)) (entry :: entries)

theorem ListText.edged
    {text : Text}
    {entries : List Entry}
    (h : ListText text entries) :
    Edged text := by
  induction h with
  | last form =>
      exact form.edged
  | @more text before after rest _ _ form _ _ _ ih =>
      simpa using form.edged.append ih (before ++ '/' :: after)

theorem ListText.chars
    {text : Text}
    {entries : List Entry}
    (h : ListText text entries) :
    ∀ c ∈ text, c.isAlphanum = true ∨ (c = ' ' ∨ c = '\t') ∨ c = '-' ∨ c = '/' := by
  induction h with
  | last form =>
      intro c hc
      exact (form.chars c hc).imp_right (Or.imp_right Or.inl)
  | more form beforeSpaces afterSpaces restForm ih =>
      intro c hc
      simp only [List.mem_append, List.mem_cons] at hc
      rcases hc with (hc | hc) | rfl | hc | hc
      · exact (form.chars c hc).imp_right (Or.imp_right Or.inl)
      · exact Or.inr (Or.inl (beforeSpaces c hc))
      · exact Or.inr (Or.inr (Or.inr rfl))
      · exact Or.inr (Or.inl (afterSpaces c hc))
      · exact ih c hc

theorem ListText.comma_not_mem
    {text : Text}
    {entries : List Entry}
    (h : ListText text entries) :
    ',' ∉ text :=
  fun hmem => absurd (h.chars _ hmem) (by decide)

/-- A padded entry has no slash. -/
theorem slash_not_mem
    {lead text tail : Text}
    {entry : Entry}
    (hlead : Spaces lead)
    (hform : EntryText text entry)
    (htail : Spaces tail) :
    '/' ∉ lead ++ text ++ tail := by
  simp only [List.mem_append, not_or]
  refine ⟨⟨hlead.not_mem rfl, fun h => ?_⟩, htail.not_mem rfl⟩
  exact absurd (hform.chars _ h) (by decide)

theorem entries?_of_not_mem
    {text : Text}
    {entries : List Entry}
    (h : '/' ∉ text) :
    entries? text = some entries ↔
      ∃ entry, Entry.ofText? text = some entry ∧ [entry] = entries := by
  rw [entries?, List.splitOn_eq_singleton h]
  simp [Option.bind_eq_some_iff]

theorem entries?_append_cons
    {text rest : Text}
    {entries : List Entry}
    (h : '/' ∉ text) :
    entries? (text ++ '/' :: rest) = some entries ↔
      ∃ entry later, Entry.ofText? text = some entry ∧ entries? rest = some later ∧
        entry :: later = entries := by
  rw [entries?, List.splitOn_append_cons_self_of_not_mem h, List.mapM_cons]
  simp [entries?, Option.bind_eq_some_iff]

/-- What the reader accepts is a written list with spaces around it. -/
theorem padded_of_entries?
    {text : Text}
    {entries : List Entry}
    (h : entries? text = some entries) :
    Padded ListText text entries := by
  induction entries generalizing text with
  | nil =>
      by_cases hslash : '/' ∈ text
      · obtain ⟨first, rest, rfl, hfirst⟩ := List.eq_append_cons_of_mem hslash
        simp [entries?_append_cons hfirst] at h
      · simp [entries?_of_not_mem hslash] at h
  | cons entry entries ih =>
      by_cases hslash : '/' ∈ text
      · obtain ⟨first, rest, rfl, hfirst⟩ := List.eq_append_cons_of_mem hslash
        obtain ⟨_, _, hentry, hentries, heq⟩ := (entries?_append_cons hfirst).mp h
        obtain ⟨rfl, rfl⟩ := List.cons.inj heq
        obtain ⟨lead, core, before, rfl, hlead, hbefore, hform⟩ := ofText?_eq_some_iff.mp hentry
        obtain ⟨after, list, tail, rfl, hafter, htail, hlist⟩ := ih hentries
        exact ⟨lead, _, tail, by simp, hlead, htail, .more hform hbefore hafter hlist⟩
      · obtain ⟨_, hentry, heq⟩ := (entries?_of_not_mem hslash).mp h
        obtain ⟨rfl, rfl⟩ := List.cons.inj heq
        obtain ⟨lead, core, tail, rfl, hlead, htail, hform⟩ := ofText?_eq_some_iff.mp hentry
        exact ⟨lead, core, tail, rfl, hlead, htail, .last hform⟩

/-- The reader accepts a written list with spaces around it. -/
theorem ListText.entries?_eq
    {lead text tail : Text}
    {entries : List Entry}
    (h : ListText text entries)
    (hlead : Spaces lead)
    (htail : Spaces tail) :
    entries? (lead ++ text ++ tail) = some entries := by
  induction h generalizing lead with
  | @last text entry form =>
      have hentry := ofText?_eq_some_iff.mpr ⟨lead, text, tail, rfl, hlead, htail, form⟩
      exact (entries?_of_not_mem (slash_not_mem hlead form htail)).mpr ⟨entry, hentry, rfl⟩
  | @more text before after rest entry later form beforeSpaces afterSpaces _ ih =>
      have hentry := ofText?_eq_some_iff.mpr ⟨lead, text, before, rfl, hlead, beforeSpaces, form⟩
      have hlist : entries? (lead ++ text ++ before ++ '/' :: (after ++ rest ++ tail)) =
          some (entry :: later) :=
        (entries?_append_cons (slash_not_mem hlead form beforeSpaces)).mpr
          ⟨entry, later, hentry, ih afterSpaces, rfl⟩
      simpa using hlist

/-- The reader accepts exactly the written lists, with spaces around them. -/
theorem entries?_eq_some_iff
    {text : Text}
    {entries : List Entry} :
    entries? text = some entries ↔ Padded ListText text entries := by
  constructor
  · exact padded_of_entries?
  · rintro ⟨lead, core, tail, rfl, hlead, htail, hform⟩
    exact hform.entries?_eq hlead htail

/-- A text without blanks around it is accepted exactly when it is a written list. -/
theorem entries?_trim_iff
    {text : Text}
    {entries : List Entry} :
    entries? text.trim = some entries ↔ ListText text.trim entries := by
  rw [entries?_eq_some_iff]
  constructor
  · rintro ⟨lead, core, tail, htext, hlead, htail, hform⟩
    obtain ⟨hstart, hend⟩ := stops_trim text
    rw [htext] at hend
    obtain rfl := eq_nil_of_stops_reverse _ htail hend
    rw [htext, List.append_assoc] at hstart
    obtain rfl := eq_nil_of_stops hlead hstart
    rwa [htext, List.nil_append, List.append_nil]
  · intro hform
    exact ⟨[], text.trim, [], by simp, spaces_nil, spaces_nil, hform⟩

end Lists

section Registers

/-- The register is one that the entry stands for: the named one, or one of the same family as both
bounds with a number between theirs, in either order. -/
def Entry.Denotes : Entry → Register → Prop
  | .single name, r => r.family = name.family ∧ r.number = name.number
  | .range first last, r =>
      first.family = last.family ∧ r.family = first.family ∧
        ((first.number ≤ r.number ∧ r.number ≤ last.number) ∨
          (last.number ≤ r.number ∧ r.number ≤ first.number))

theorem mem_between_iff
    {family : Family}
    {m n : Nat}
    {r : Register} :
    r ∈ Register.between family m n ↔
      r.family = family ∧ ((m ≤ r.number ∧ r.number ≤ n) ∨ (n ≤ r.number ∧ r.number ≤ m)) := by
  simp only [Register.between, List.mem_filter, Register.mem_all, true_and, Bool.and_eq_true,
    beq_iff_eq, decide_eq_true_eq, and_assoc]
  refine and_congr_right fun _ => ?_
  omega

theorem Entry.mem_registers_iff
    {entry : Entry}
    {r : Register} :
    r ∈ entry.registers ↔ entry.Denotes r := by
  cases entry with
  | single name =>
      simp [Entry.registers, Entry.Denotes, register?_eq_some_iff]
  | range first last =>
      by_cases hfamily : first.family = last.family
      · simp [Entry.registers, Entry.Denotes, hfamily, mem_between_iff]
      · simp [Entry.registers, Entry.Denotes, hfamily]

/-- The registers of a list are those of its entries. -/
theorem mem_registers_iff
    {entries : List Entry}
    {r : Register} :
    r ∈ registers entries ↔ ∃ entry ∈ entries, entry.Denotes r := by
  simp [registers, Entry.mem_registers_iff]

end Registers

end RegisterList

end CalleeSaved
