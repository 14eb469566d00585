import CalleeSaved.Text.Basic
import CalleeSaved.Text.Word
import Mathlib

/-!
# Letter case in texts

**Characters.**  `eq_toLower`: a class that holds both forms of each letter, or neither, does not
feel letter case.  `toLower_eq_iff`: no other character turns into a separator.

**Texts.**  `lowered` is a text in small letters, and `CaseAlike` texts have the same.  Scanners
find in a text in small letters what they find in the text, in small letters: `takeWhile_lowered`,
`trimWhile_lowered`, `splitOn_lowered`.
-/

namespace CalleeSaved

namespace Text

/-- A character is its own small form, or one of the capitals. -/
theorem toLower_cases
    (c : Char) :
    c.toLower = c ∨ ∃ n : Fin 26, c = Char.ofNat (65 + n) ∧ c.toLower = Char.ofNat (97 + n) := by
  have hsmall : ∀ n : Fin 26, (Char.ofNat (65 + n)).toLower = Char.ofNat (97 + n) := by decide
  by_cases hupper : 65 ≤ c.toNat ∧ c.toNat ≤ 90
  · have hcode : 65 + (c.toNat - 65) = c.toNat := by omega
    have hc : c = Char.ofNat (65 + (⟨c.toNat - 65, by omega⟩ : Fin 26)) := by
      rw [hcode, Char.ofNat_toNat]
    exact Or.inr ⟨_, hc, (congrArg Char.toLower hc).trans (hsmall _)⟩
  · refine Or.inl (dif_neg ?_)
    rintro ⟨hlow, hhigh⟩
    exact hupper ⟨UInt32.le_iff_toNat_le.mp hlow, UInt32.le_iff_toNat_le.mp hhigh⟩

/-- What does not tell a capital from its small form does not feel letter case. -/
theorem eq_toLower
    {α : Type}
    {f : Char → α}
    (h : ∀ n : Fin 26, f (Char.ofNat (97 + n)) = f (Char.ofNat (65 + n)))
    (c : Char) :
    f c.toLower = f c := by
  rcases toLower_cases c with hsame | ⟨n, hc, hlower⟩
  · rw [hsame]
  · rw [hlower, h n, hc]

@[simp] theorem isBlank_toLower (c : Char) : isBlank c.toLower = isBlank c :=
  eq_toLower (by decide) c

@[simp] theorem isSpace_toLower (c : Char) : isSpace c.toLower = isSpace c :=
  eq_toLower (by decide) c

@[simp] theorem isWordChar_toLower (c : Char) : isWordChar c.toLower = isWordChar c :=
  eq_toLower (by decide) c

/-- Only a letter turns into a letter. -/
theorem toLower_eq_iff
    {c x : Char}
    (hx : x.isAlpha = false) :
    c.toLower = x ↔ c = x := by
  have hcapital : ∀ n : Fin 26, (Char.ofNat (65 + n)).isAlpha = true := by decide
  rcases toLower_cases c with hsame | ⟨n, hc, -⟩
  · rw [hsame]
  · have halpha : c.isAlpha = true := hc ▸ hcapital n
    constructor
    · rintro rfl
      rw [Char.isAlpha_toLower_eq_isAlpha, halpha] at hx
      cases hx
    · rintro rfl
      rw [halpha] at hx
      cases hx

theorem beq_toLower
    {x : Char}
    (hx : x.isAlpha = false)
    (c : Char) :
    (c.toLower == x) = (c == x) := by
  rw [Bool.eq_iff_iff, beq_iff_eq, beq_iff_eq, toLower_eq_iff hx]

/-- The text in small letters.  Letters outside ASCII stay as they are. -/
def lowered (text : Text) : Text :=
  text.map Char.toLower

/-- The texts differ at most in the case of ASCII letters. -/
def CaseAlike (text other : Text) : Prop :=
  text.lowered = other.lowered

instance : DecidableRel CaseAlike := fun text other =>
  inferInstanceAs (Decidable (text.lowered = other.lowered))

/-- What a text shares with its small form it shares with every text that differs only in case. -/
theorem CaseAlike.eq
    {α : Type}
    {f : Text → α}
    (hf : ∀ text, f (lowered text) = f text)
    {text other : Text}
    (h : CaseAlike text other) :
    f text = f other := by
  rw [← hf text, ← hf other, h]

@[simp] theorem lowered_nil : lowered [] = [] := rfl

@[simp] theorem lowered_cons
    (c : Char)
    (rest : Text) :
    lowered (c :: rest) = c.toLower :: rest.lowered :=
  rfl

@[simp] theorem lowered_eq_nil_iff
    {text : Text} :
    text.lowered = [] ↔ text = [] :=
  List.map_eq_nil_iff

theorem lowered_eq_iff
    {text other : Text}
    (h : other.all (!Char.isAlpha ·) = true) :
    text.lowered = other ↔ text = other := by
  induction other generalizing text with
  | nil =>
      simp
  | cons x rest ih =>
      rw [List.all_cons, Bool.and_eq_true, Bool.not_eq_true'] at h
      cases text with
      | nil =>
          simp
      | cons c text =>
          rw [lowered_cons, List.cons.injEq, List.cons.injEq, toLower_eq_iff h.1, ih h.2]

theorem lowered_eq_cons_iff
    {x : Char}
    (hx : x.isAlpha = false)
    {text rest : Text} :
    text.lowered = x :: rest ↔ ∃ tail : Text, text = x :: tail ∧ tail.lowered = rest := by
  cases text with
  | nil =>
      simp
  | cons c tail =>
      rw [lowered_cons, List.cons.injEq, toLower_eq_iff hx]
      constructor
      · rintro ⟨rfl, rfl⟩
        exact ⟨tail, rfl, rfl⟩
      · rintro ⟨_, heq, rfl⟩
        cases heq
        exact ⟨rfl, rfl⟩

theorem head?_lowered_eq_iff
    {x : Char}
    (hx : x.isAlpha = false)
    {text : Text} :
    text.lowered.head? = some x ↔ text.head? = some x := by
  cases text with
  | nil =>
      rfl
  | cons c rest =>
      simp [toLower_eq_iff hx]

theorem isPrefixOf_lowered
    {signs : Text}
    (h : signs.all (!Char.isAlpha ·) = true)
    (text : Text) :
    signs.isPrefixOf text.lowered = signs.isPrefixOf text := by
  induction signs generalizing text with
  | nil =>
      rfl
  | cons x rest ih =>
      rw [List.all_cons, Bool.and_eq_true, Bool.not_eq_true'] at h
      cases text with
      | nil =>
          rfl
      | cons c text =>
          rw [lowered_cons, List.isPrefixOf, List.isPrefixOf, ih h.2, BEq.comm,
            beq_toLower h.1, BEq.comm]

theorem contains_lowered
    {x : Char}
    (hx : x.isAlpha = false)
    (text : Text) :
    text.lowered.contains x = text.contains x := by
  rw [Bool.eq_iff_iff, List.contains_iff_mem, List.contains_iff_mem, lowered, List.mem_map]
  simp [toLower_eq_iff hx]

theorem any_head?_lowered
    {p : Char → Bool}
    (hp : ∀ c, p c.toLower = p c)
    (text : Text) :
    text.lowered.head?.any p = text.head?.any p := by
  cases text with
  | nil =>
      rfl
  | cons c rest =>
      exact hp c

theorem takeWhile_lowered
    {p : Char → Bool}
    (hp : ∀ c, p c.toLower = p c)
    (text : Text) :
    text.lowered.takeWhile p = lowered (text.takeWhile p) := by
  rw [lowered, List.takeWhile_map, Function.comp_def, funext hp]
  rfl

theorem dropWhile_lowered
    {p : Char → Bool}
    (hp : ∀ c, p c.toLower = p c)
    (text : Text) :
    text.lowered.dropWhile p = lowered (text.dropWhile p) := by
  rw [lowered, List.dropWhile_map, Function.comp_def, funext hp]
  rfl

theorem trimWhile_lowered
    {p : Char → Bool}
    (hp : ∀ c, p c.toLower = p c)
    (text : Text) :
    trimWhile p text.lowered = lowered (trimWhile p text) := by
  have hreverse (part : Text) : part.lowered.reverse = lowered part.reverse :=
    List.map_reverse.symm
  simp only [trimWhile, trimEndWhile, dropWhile_lowered hp, hreverse]

theorem trim_lowered
    (text : Text) :
    trim text.lowered = lowered text.trim :=
  trimWhile_lowered isBlank_toLower text

theorem trimSpaces_lowered
    (text : Text) :
    trimSpaces text.lowered = lowered (trimSpaces text) :=
  trimWhile_lowered isSpace_toLower text

theorem splitOn_lowered
    {sep : Char}
    (hsep : sep.isAlpha = false)
    (text : Text) :
    text.lowered.splitOn sep = (text.splitOn sep).map lowered := by
  induction text with
  | nil =>
      rfl
  | cons c rest ih =>
      rw [lowered_cons, List.splitOn_cons_eq_if_modifyHead, List.splitOn_cons_eq_if_modifyHead, ih,
        beq_toLower hsep]
      split
      · rfl
      · cases rest.splitOn sep <;> rfl

end Text
end CalleeSaved
