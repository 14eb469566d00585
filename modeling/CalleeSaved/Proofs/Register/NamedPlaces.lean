import CalleeSaved.Proofs.Register.ListFormat
import Mathlib.Data.List.Forall2

/-!
# Places where a text names a register

A text names a register at a place when the name of the register stands there as a word of its own.
`NamedAt` says this by the parts of the text: what is left of the name, the name, and what is right
of it.  The search for registers is held against it.

**Places.**  `namedAt?_eq_some_iff_namedAt`: the register found at a position is the one named there.

**Separators.**  `separates_of_tokens_append_cons`: a character at which every text can be cut
without a change to what it names is a separator.

**Main result.**  `tokens_exact`: the search returns the registers of all places, in order, and
separators are exactly the characters at which texts can be cut.
-/

namespace CalleeSaved

open Text

namespace Register

section NeighboursAndNames

theorem joinsName_eq_false_iff
    {before : Option Char} :
    joinsName before = false ↔ ∀ c ∈ before, Separates c := by
  cases before <;> simp [joinsName, Separates]

theorem endsWord_eq_false_iff
    {after : Option Char} :
    endsWord after = false ↔ ∀ c ∈ after, isWordChar c = false := by
  cases after <;> simp [endsWord]

/-- A register has one name, and A7 is the name of no tracked register. -/
theorem register?_eq_some_iff_toName
    {name : RegisterName}
    {r : Register} :
    name.register? = some r ↔ name = r.toName := by
  obtain ⟨family, number⟩ := name
  rw [RegisterName.register?_eq_some_iff, toName, RegisterName.mk.injEq, Fin.ext_iff]
  exact and_congr eq_comm eq_comm

theorem ofChars?_eq_some_iff
    {letter digit : Char}
    {r : Register} :
    ofChars? letter digit = some r ↔ RegisterName.Token [letter, digit] r.toName := by
  simp only [ofChars?, Option.bind_eq_some_iff, register?_eq_some_iff_toName, exists_eq_right]
  change RegisterName.ofText? [letter, digit] = some r.toName ↔ _
  exact RegisterName.ofText?_eq_some_iff

/-- A register is found at the head of a text when its name begins the text and stands apart from
both neighbours. -/
theorem tokenAt?_eq_some_iff_token
    {before : Option Char}
    {text : Text}
    {r : Register} :
    tokenAt? before text = some r ↔
      (∀ c ∈ before, Separates c) ∧
        ∃ word right, text = word ++ right ∧ RegisterName.Token word r.toName ∧
          ∀ c ∈ right.head?, isWordChar c = false := by
  rw [tokenAt?_eq_some_iff, joinsName_eq_false_iff, endsWord_eq_false_iff]
  refine and_congr_right fun _ => ?_
  constructor
  · rintro ⟨hafter, letter, digit, hletter, hdigit, hname⟩
    match text with
    | first :: second :: right =>
        obtain rfl : first = letter := Option.some.inj hletter
        obtain rfl : second = digit := Option.some.inj hdigit
        refine ⟨[first, second], right, rfl, ofChars?_eq_some_iff.mp hname, ?_⟩
        rwa [List.head?_eq_getElem?]
  · rintro ⟨word, right, rfl, htoken, hafter⟩
    obtain ⟨letter, rfl, -⟩ := id htoken
    refine ⟨?_, letter, _, rfl, rfl, ofChars?_eq_some_iff.mpr htoken⟩
    rwa [List.head?_eq_getElem?] at hafter

end NeighboursAndNames

section Places

/-- The text names the register at the position: a letter in either case and a digit spell it there,
neither a word character nor a dollar sign stands directly before them, and no word character
directly behind them. -/
def NamedAt (text : Text) (i : Nat) (r : Register) : Prop :=
  ∃ left word right,
    text = left ++ word ++ right ∧ left.length = i ∧ RegisterName.Token word r.toName ∧
      (∀ c ∈ left.getLast?, isWordChar c = false ∧ c ≠ '$') ∧
      ∀ c ∈ right.head?, isWordChar c = false

theorem namedAt?_append
    (left text : Text) :
    namedAt? (left ++ text) left.length = tokenAt? left.getLast? text := by
  have hbefore : charBefore none (left ++ text) left.length = left.getLast? := by
    obtain rfl | ⟨init, c, rfl⟩ := List.eq_nil_or_concat left
    · rfl
    · simp [charBefore]
  rw [namedAt?, hbefore, List.drop_left]

theorem lt_length_of_namedAt?
    {text : Text}
    {i : Nat}
    {r : Register}
    (h : namedAt? text i = some r) :
    i < text.length := by
  obtain ⟨-, -, letter, -, hletter, -⟩ := namedAt?_eq_some_iff.mp h
  exact (List.getElem?_eq_some_iff.mp hletter).1

theorem namedAt?_eq_some_iff_namedAt
    {text : Text}
    {i : Nat}
    {r : Register} :
    namedAt? text i = some r ↔ NamedAt text i r := by
  constructor
  · intro h
    obtain ⟨left, rest, rfl, rfl⟩ : ∃ left rest, text = left ++ rest ∧ left.length = i :=
      ⟨text.take i, text.drop i, (List.take_append_drop i text).symm,
        List.length_take_of_le (lt_length_of_namedAt? h).le⟩
    rw [namedAt?_append, tokenAt?_eq_some_iff_token] at h
    obtain ⟨hbefore, word, right, rfl, htoken, hafter⟩ := h
    exact ⟨left, word, right, (List.append_assoc ..).symm, rfl, htoken, hbefore, hafter⟩
  · rintro ⟨left, word, right, rfl, rfl, htoken, hbefore, hafter⟩
    rw [List.append_assoc, namedAt?_append, tokenAt?_eq_some_iff_token]
    exact ⟨hbefore, word, right, rfl, htoken, hafter⟩

/-- The positions at which a text names a register, in order. -/
def places (text : Text) : List Nat :=
  (List.range text.length).filter fun i => (namedAt? text i).isSome

theorem places_pairwise
    (text : Text) :
    (places text).Pairwise (· < ·) :=
  List.pairwise_lt_range.filter _

theorem mem_places
    {text : Text}
    {i : Nat} :
    i ∈ places text ↔ ∃ r, NamedAt text i r := by
  simp only [places, List.mem_filter, List.mem_range, Option.isSome_iff_exists,
    ← namedAt?_eq_some_iff_namedAt]
  constructor
  · rintro ⟨-, hnamed⟩
    exact hnamed
  · rintro ⟨r, h⟩
    exact ⟨lt_length_of_namedAt? h, r, h⟩

/-- The values of a partial function along a list belong, one by one, to the arguments that have
one. -/
theorem forall₂_filterMap
    {α β : Type}
    (f : α → Option β)
    (xs : List α) :
    List.Forall₂ (fun x y => f x = some y) (xs.filter fun x => (f x).isSome) (xs.filterMap f) := by
  induction xs with
  | nil =>
      exact .nil
  | cons x xs ih =>
      cases h : f x with
      | none =>
          simpa [h] using ih
      | some y =>
          simpa [h] using ih

theorem forall₂_places
    (text : Text) :
    List.Forall₂ (NamedAt text) (places text) (tokens text) := by
  rw [tokens_eq_filterMap]
  exact (forall₂_filterMap (namedAt? text) (List.range text.length)).imp
    fun _ _ => namedAt?_eq_some_iff_namedAt.mp

end Places

section Separators

/-- A word character directly behind a name makes a longer word of it. -/
theorem tokens_name_wordChar
    {c : Char}
    (h : isWordChar c = true) :
    tokens ['d', '0', c] = [] := by
  have hhead : nameAt? none ['d', '0', c] = none := by simp [nameAt?, endsWord, h]
  have hletter : joinsName (some 'd') = true := by decide
  rw [tokens, tokensAfter, namesAfter, hhead, namesAfter_of_joinsName hletter]
  rfl

/-- A name on either side of the character shows what it must not be: a word character would join
the name before it, a dollar sign the name behind it. -/
theorem separates_of_tokens_append_cons
    {c : Char}
    (h : ∀ text rest : Text, tokens (text ++ c :: rest) = tokens text ++ tokens rest) :
    Separates c := by
  have hname : tokens ['d', '0'] = [.d 0] := by decide
  constructor
  · by_contra hword
    have hcut := h ['d', '0'] []
    rw [hname] at hcut
    exact absurd ((tokens_name_wordChar (by simpa using hword)).symm.trans hcut) (by decide)
  · rintro rfl
    have hcut := h [] ['d', '0']
    rw [hname] at hcut
    exact absurd hcut (by decide)

end Separators

/-- **Registers named in a text.**  The search returns, in the order of their places and once for
each place, exactly the tracked registers that the text names.  A character is neither a word
character nor a dollar sign just when every text can be cut at it: the registers named on its two
sides, one list after the other, are those named in the whole. -/
theorem tokens_exact :
    (∀ text : Text, ∃ found : List Nat,
      found.Pairwise (· < ·) ∧ (∀ i, i ∈ found ↔ ∃ r, NamedAt text i r) ∧
        List.Forall₂ (NamedAt text) found (tokens text)) ∧
    ∀ c : Char, (isWordChar c = false ∧ c ≠ '$') ↔
      ∀ text rest : Text, tokens (text ++ c :: rest) = tokens text ++ tokens rest := by
  refine ⟨fun text => ?_, fun c => ⟨fun hc => ?_, separates_of_tokens_append_cons⟩⟩
  · exact ⟨places text, places_pairwise text, fun i => mem_places, forall₂_places text⟩
  · exact tokens_append_cons hc

/-- A dollar sign, the stack pointer, a longer word and a letter beyond ASCII keep a name from
counting, a register that is named twice counts twice, and the names next to parentheses count. -/
theorem tokens_exact_neighbours :
    let text := "d0,$a1-A7 xd2/d3é(A4)d0".toList
    tokens text = [.d 0, .a 4, .d 0] ∧
    (∃ found : List Nat, found.Pairwise (· < ·) ∧ (∀ i, i ∈ found ↔ ∃ r, NamedAt text i r) ∧
      List.Forall₂ (NamedAt text) found [.d 0, .a 4, .d 0]) ∧
    tokens (text ++ ';' :: text) = [.d 0, .a 4, .d 0] ++ [.d 0, .a 4, .d 0] := by
  intro text
  have htokens : tokens text = [.d 0, .a 4, .d 0] := by decide
  refine ⟨htokens, ?_, ?_⟩
  · rw [← htokens]
    exact tokens_exact.1 text
  · rw [← htokens]
    exact (tokens_exact.2 ';').mp ⟨by decide, by decide⟩ text text

end Register
end CalleeSaved
