import CalleeSaved.Proofs.Register.ListGrammar
import CalleeSaved.Register.Name

/-!
# Registers named in a text

The search for register names goes through a text from left to right, keeps the character before
it, and goes on behind each name.  This module says what it finds by positions, and how a text falls
into parts for it.

**Search.**  No name starts inside another (`namesAfter_of_joinsName`), so a search that tries every
position finds the same names (`namesAfter_cons`, `tokensAfter_cons`).

**Positions.**  `namedAt?` is the register named at a position, and `tokens_eq_filterMap` says that
the search finds what is named at the positions, in order.  `namedAt?_eq_some_iff`: the four
characters that decide it.

**Parts.**  A character that cannot join a name separates the text before it from the text after it
(`tokens_append_cons`), so blanks around a text name nothing (`tokens_blanks_append`,
`tokens_append_blanks`).
-/

namespace CalleeSaved

open Text

namespace Text

/-- The code points of the blanks. -/
def blankCodes : List Nat :=
  [0x09, 0x0A, 0x0B, 0x0C, 0x0D, 0x1C, 0x1D, 0x1E, 0x1F, 0x20, 0x85, 0xA0, 0x1680, 0x2000, 0x2001,
    0x2002, 0x2003, 0x2004, 0x2005, 0x2006, 0x2007, 0x2008, 0x2009, 0x200A, 0x2028, 0x2029, 0x202F,
    0x205F, 0x3000]

theorem toNat_mem_blankCodes
    {c : Char}
    (h : isBlank c = true) :
    c.toNat ∈ blankCodes := by
  simp only [isBlank, Bool.or_eq_true, Bool.and_eq_true, decide_eq_true_eq, beq_iff_eq] at h
  simp only [blankCodes, List.mem_cons, List.not_mem_nil, or_false]
  omega

/-- No blank is part of a word. -/
theorem isWordChar_of_isBlank
    {c : Char}
    (h : isBlank c = true) :
    isWordChar c = false := by
  have hcodes : ∀ n ∈ blankCodes, isWordChar (Char.ofNat n) = false := by decide +kernel
  simpa [Char.ofNat_toNat] using hcodes c.toNat (toNat_mem_blankCodes h)

/-- No letter and no digit is a blank. -/
theorem isBlank_of_isAlphanum
    {c : Char}
    (h : c.isAlphanum = true) :
    isBlank c = false := by
  have hcodes : ∀ n ∈ blankCodes, (Char.ofNat n).isAlphanum = false := by decide
  by_contra hblank
  have hnone := hcodes c.toNat (toNat_mem_blankCodes (by simpa using hblank))
  rw [Char.ofNat_toNat, h] at hnone
  cases hnone

end Text

namespace Register

/-- The character cannot stand directly before or after a register name as a part of it. -/
def Separates (c : Char) : Prop :=
  isWordChar c = false ∧ c ≠ '$'

theorem joinsName_of_separates
    {c : Char}
    (h : Separates c) :
    joinsName (some c) = false := by
  simp [joinsName, h.1, h.2]

theorem separates_of_isBlank
    {c : Char}
    (h : isBlank c = true) :
    Separates c := by
  refine ⟨isWordChar_of_isBlank h, ?_⟩
  rintro rfl
  exact absurd h (by decide)

end Register

/-- A register name is made of word characters. -/
theorem RegisterName.isWordChar_of_ofChars?
    {letter digit : Char}
    {name : RegisterName}
    (h : ofChars? letter digit = some name) :
    isWordChar letter = true ∧ isWordChar digit = true := by
  have hdigits : ∀ n : Fin 8, isWordChar (Nat.digitChar n) = true := by decide
  have htext : ofText? [letter, digit] = some name := h
  obtain ⟨first, heq, hletter⟩ := ofText?_eq_some_iff.mp htext
  obtain ⟨rfl, rfl⟩ : letter = first ∧ digit = Nat.digitChar name.number := by simpa using heq
  refine ⟨?_, hdigits name.number⟩
  cases hfamily : name.family <;> rw [hfamily] at hletter <;>
    rcases hletter with rfl | rfl <;> decide

namespace Register

/-- The register named by a letter and a digit. -/
def ofChars? (letter digit : Char) : Option Register :=
  (RegisterName.ofChars? letter digit).bind RegisterName.register?

theorem isWordChar_of_ofChars?
    {letter digit : Char}
    {r : Register}
    (h : ofChars? letter digit = some r) :
    isWordChar letter = true ∧ isWordChar digit = true := by
  obtain ⟨name, hname, -⟩ := Option.bind_eq_some_iff.mp h
  exact RegisterName.isWordChar_of_ofChars? hname

theorem nameAt?_eq_some_iff
    {before : Option Char}
    {text : Text}
    {name : RegisterName} :
    nameAt? before text = some name ↔
      joinsName before = false ∧ endsWord text[2]? = false ∧
        ∃ letter digit, text[0]? = some letter ∧ text[1]? = some digit ∧
          RegisterName.ofChars? letter digit = some name := by
  match text with
  | [] =>
      simp [nameAt?]
  | [_] =>
      simp [nameAt?]
  | letter :: digit :: rest =>
      simp [nameAt?, List.head?_eq_getElem?, and_assoc]

/-- The tracked register named at the head of the text, given the character before it. -/
def tokenAt? (before : Option Char) (text : Text) : Option Register :=
  (nameAt? before text).bind RegisterName.register?

theorem tokenAt?_eq_some_iff
    {before : Option Char}
    {text : Text}
    {r : Register} :
    tokenAt? before text = some r ↔
      joinsName before = false ∧ endsWord text[2]? = false ∧
        ∃ letter digit, text[0]? = some letter ∧ text[1]? = some digit ∧
          ofChars? letter digit = some r := by
  simp only [tokenAt?, ofChars?, Option.bind_eq_some_iff, nameAt?_eq_some_iff]
  constructor
  · rintro ⟨name, ⟨hbefore, hafter, letter, digit, hletter, hdigit, hname⟩, hregister⟩
    exact ⟨hbefore, hafter, letter, digit, hletter, hdigit, name, hname, hregister⟩
  · rintro ⟨hbefore, hafter, letter, digit, hletter, hdigit, name, hname, hregister⟩
    exact ⟨name, ⟨hbefore, hafter, letter, digit, hletter, hdigit, hname⟩, hregister⟩

/-- No name starts or ends at a character that is no part of a word. -/
theorem tokenAt?_eq_none
    {c : Char}
    {text : Text}
    {i : Nat}
    (htext : text[i]? = some c)
    (hi : i < 2)
    (hc : isWordChar c = false)
    (before : Option Char) :
    tokenAt? before text = none := by
  refine Option.eq_none_iff_forall_ne_some.mpr fun r h => ?_
  obtain ⟨-, -, letter, digit, hletter, hdigit, hname⟩ := tokenAt?_eq_some_iff.mp h
  obtain ⟨hword, hword'⟩ := isWordChar_of_ofChars? hname
  match i with
  | 0 =>
      obtain rfl : letter = c := Option.some.inj (hletter.symm.trans htext)
      simp [hc] at hword
  | 1 =>
      obtain rfl : digit = c := Option.some.inj (hdigit.symm.trans htext)
      simp [hc] at hword'

section Search

/-- Directly behind a character that joins a name no name starts, so the search goes one character
on. -/
theorem namesAfter_of_joinsName
    {before : Option Char}
    (h : joinsName before = true)
    (c : Char)
    (rest : Text) :
    namesAfter before (c :: rest) = namesAfter (some c) rest := by
  cases rest with
  | nil =>
      rfl
  | cons d rest =>
      have hnone : nameAt? before (c :: d :: rest) = none := by
        simp [nameAt?, h]
      rw [namesAfter, hnone]

/-- The search finds the same names when it tries every position: none starts at the digit of
another, whose letter joins it. -/
theorem namesAfter_cons
    (before : Option Char)
    (c : Char)
    (rest : Text) :
    namesAfter before (c :: rest) =
      (nameAt? before (c :: rest)).toList ++ namesAfter (some c) rest := by
  cases rest with
  | nil =>
      rfl
  | cons d rest =>
      cases hname : nameAt? before (c :: d :: rest) with
      | none =>
          rw [namesAfter, hname]
          rfl
      | some name =>
          obtain ⟨-, -, letter, digit, hletter, -, hchars⟩ := nameAt?_eq_some_iff.mp hname
          obtain rfl : c = letter := Option.some.inj hletter
          have hjoin : joinsName (some c) = true := by
            simp [joinsName, (RegisterName.isWordChar_of_ofChars? hchars).1]
          rw [namesAfter, hname, namesAfter_of_joinsName hjoin]
          rfl

theorem tokensAfter_cons
    (before : Option Char)
    (c : Char)
    (rest : Text) :
    tokensAfter before (c :: rest) =
      (tokenAt? before (c :: rest)).toList ++ tokensAfter (some c) rest := by
  rw [tokensAfter, namesAfter_cons, List.filterMap_append, tokenAt?, ← tokensAfter]
  cases nameAt? before (c :: rest) with
  | none =>
      rfl
  | some name =>
      cases hregister : name.register? <;> simp [hregister]

end Search

section Positions

/-- The character before a position of a text that follows the given character. -/
def charBefore (before : Option Char) (text : Text) : Nat → Option Char
  | 0 => before
  | i + 1 => text[i]?

/-- The tracked register named at a position of a text. -/
def namedAt? (text : Text) (i : Nat) : Option Register :=
  tokenAt? (charBefore none text i) (text.drop i)

/-- A name stands at a position when two characters make it up, and neither of its neighbours joins
it. -/
theorem namedAt?_eq_some_iff
    {text : Text}
    {i : Nat}
    {r : Register} :
    namedAt? text i = some r ↔
      joinsName (charBefore none text i) = false ∧ endsWord text[i + 2]? = false ∧
        ∃ letter digit, text[i]? = some letter ∧ text[i + 1]? = some digit ∧
          ofChars? letter digit = some r := by
  simp [namedAt?, tokenAt?_eq_some_iff]

theorem tokensAfter_eq_filterMap
    (before : Option Char)
    (text : Text) :
    tokensAfter before text =
      (List.range text.length).filterMap
        fun i => tokenAt? (charBefore before text i) (text.drop i) := by
  induction text generalizing before with
  | nil =>
      rfl
  | cons c rest ih =>
      have hshift (i : Nat) :
          charBefore before (c :: rest) (i + 1) = charBefore (some c) rest i := by
        cases i <;> rfl
      have hfirst : charBefore before (c :: rest) 0 = before := rfl
      rw [tokensAfter_cons, ih, List.length_cons, List.range_succ_eq_map, List.filterMap_cons,
        List.filterMap_map]
      simp only [Function.comp_def, Nat.succ_eq_add_one, hshift, hfirst, List.drop_succ_cons,
        List.drop_zero]
      cases tokenAt? before (c :: rest) <;> rfl

/-- The search finds what is named at the positions of the text, in order. -/
theorem tokens_eq_filterMap
    (text : Text) :
    tokens text = (List.range text.length).filterMap (namedAt? text) :=
  tokensAfter_eq_filterMap none text

end Positions

section Parts

theorem tokensAfter_congr
    {before other : Option Char}
    (h : joinsName before = joinsName other)
    (text : Text) :
    tokensAfter before text = tokensAfter other text := by
  cases text with
  | nil =>
      rfl
  | cons c rest =>
      have htoken : tokenAt? before (c :: rest) = tokenAt? other (c :: rest) :=
        Option.ext fun r => by simp only [tokenAt?_eq_some_iff, h]
      rw [tokensAfter_cons, tokensAfter_cons, htoken]

/-- A separator after a text does not change what is named at its head. -/
theorem tokenAt?_append_cons
    {c : Char}
    (hc : Separates c)
    (before : Option Char)
    (d : Char)
    (text rest : Text) :
    tokenAt? before (d :: text ++ c :: rest) = tokenAt? before (d :: text) := by
  match text with
  | [] =>
      have hshort : tokenAt? before [d] = none := rfl
      rw [hshort]
      exact tokenAt?_eq_none (i := 1) rfl (by omega) hc.1 before
  | [e] =>
      simp [tokenAt?, nameAt?, endsWord, hc.1]
  | e :: f :: text =>
      rfl

theorem tokensAfter_append_cons
    {c : Char}
    (hc : Separates c)
    (before : Option Char)
    (text rest : Text) :
    tokensAfter before (text ++ c :: rest) = tokensAfter before text ++ tokens rest := by
  induction text generalizing before with
  | nil =>
      have hhead : tokenAt? before (c :: rest) = none :=
        tokenAt?_eq_none (i := 0) rfl (by omega) hc.1 before
      have hjoin : joinsName (some c) = joinsName none := joinsName_of_separates hc
      rw [List.nil_append, tokensAfter_cons, hhead, tokensAfter_congr hjoin]
      rfl
  | cons d text ih =>
      rw [List.cons_append, tokensAfter_cons, tokensAfter_cons, ih, ← List.cons_append,
        tokenAt?_append_cons hc, List.append_assoc]

/-- What a text names on both sides of a separator. -/
theorem tokens_append_cons
    {c : Char}
    (hc : Separates c)
    (text rest : Text) :
    tokens (text ++ c :: rest) = tokens text ++ tokens rest :=
  tokensAfter_append_cons hc none text rest

theorem tokens_blanks
    {text : Text}
    (h : Within isBlank text) :
    tokens text = [] := by
  induction text with
  | nil =>
      rfl
  | cons c rest ih =>
      obtain ⟨hc, hrest⟩ := within_cons.mp h
      exact (tokens_append_cons (separates_of_isBlank hc) [] rest).trans (ih hrest)

theorem tokens_append_blanks
    {tail : Text}
    (h : Within isBlank tail)
    (text : Text) :
    tokens (text ++ tail) = tokens text := by
  cases tail with
  | nil =>
      rw [List.append_nil]
  | cons c tail =>
      obtain ⟨hc, htail⟩ := within_cons.mp h
      rw [tokens_append_cons (separates_of_isBlank hc), tokens_blanks htail, List.append_nil]

theorem tokens_blanks_append
    {lead : Text}
    (h : Within isBlank lead)
    (text : Text) :
    tokens (lead ++ text) = tokens text := by
  induction lead with
  | nil =>
      rfl
  | cons c lead ih =>
      obtain ⟨hc, hlead⟩ := within_cons.mp h
      exact (tokens_append_cons (separates_of_isBlank hc) [] (lead ++ text)).trans (ih hlead)

end Parts

end Register

end CalleeSaved
