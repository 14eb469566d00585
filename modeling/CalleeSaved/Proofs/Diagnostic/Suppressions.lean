import CalleeSaved.Diagnostic.Inspector
import CalleeSaved.Proofs.Source.LineGrammar

/-!
# Suppressions in force

**Comments.**  `find?_append`: code before the first comment of a line plays no part in the search
for a marker.  `isInfix_of_find?`: a line in which a marker is found holds it.
`standsAlone_of_instruction`: a line that starts with an instruction does not stand alone.

**Entries.**  `mem_ofLines_iff`: the suppressions of a file are those of its lines, one by one.

**Cover.**  `covers_iff`: what it takes for a diagnostic to be suppressed.
-/

namespace CalleeSaved

open Text

namespace SuppressionComment

theorem find?_append
    {text : Text}
    (h : ';' ∉ text)
    (marker rest : Text) :
    find? marker (text ++ rest) = find? marker rest := by
  induction text with
  | nil =>
      rfl
  | cons c text ih =>
      obtain ⟨hhead, htail⟩ : ';' ≠ c ∧ ';' ∉ text := by simpa using h
      rw [List.cons_append, find?, ih htail]
      simp [hhead.symm]

theorem find?_eq_none
    {text : Text}
    (h : ';' ∉ text)
    (marker : Text) :
    find? marker text = none := by
  simpa [find?] using find?_append h marker []

theorem isPrefix_of_afterMarker?
    {marker text after : Text}
    {before : Option Char}
    (h : afterMarker? marker before text = some after) :
    marker <+: text := by
  simp only [afterMarker?] at h
  split at h
  · next hfound =>
      simp only [Bool.and_eq_true, List.isPrefixOf_iff_prefix] at hfound
      exact hfound.1.1
  · cases h

theorem isInfix_of_inComment?
    {marker text after : Text}
    {before : Option Char}
    (h : inComment? marker before text = some after) :
    marker <:+: text := by
  induction text generalizing before with
  | nil =>
      exact (isPrefix_of_afterMarker? h).isInfix
  | cons c rest ih =>
      rw [inComment?] at h
      split at h
      · next hfound =>
          exact (isPrefix_of_afterMarker? hfound).isInfix
      · split at h
        · cases h
        · exact List.infix_cons (ih h)

/-- A marker that is found stands in the comment behind some semicolon. -/
theorem exists_inComment?_of_find?
    {marker text after : Text}
    (h : find? marker text = some after) :
    ∃ front rest, text = front ++ ';' :: rest ∧ inComment? marker (some ';') rest = some after := by
  induction text with
  | nil =>
      cases h
  | cons c text ih =>
      have hlater (hfind : find? marker text = some after) :
          ∃ front rest, c :: text = front ++ ';' :: rest ∧
            inComment? marker (some ';') rest = some after := by
        obtain ⟨front, rest, rfl, hfound⟩ := ih hfind
        exact ⟨c :: front, rest, rfl, hfound⟩
      rw [find?] at h
      split at h
      · next hc =>
          obtain rfl : c = ';' := by simpa using hc
          split at h
          · next hfound =>
              exact ⟨[], text, rfl, h ▸ hfound⟩
          · exact hlater h
      · exact hlater h

theorem exists_comment_of_find?
    {marker text after : Text}
    (h : find? marker text = some after) :
    ∃ front rest, text = front ++ ';' :: rest ∧ marker <:+: rest := by
  obtain ⟨front, rest, htext, hfound⟩ := exists_inComment?_of_find? h
  exact ⟨front, rest, htext, isInfix_of_inComment? hfound⟩

/-- A line carries a suppression only if it holds the marker. -/
theorem isInfix_of_find?
    {marker text after : Text}
    (h : find? marker text = some after) :
    marker <:+: text := by
  obtain ⟨front, rest, rfl, hmarker⟩ := exists_comment_of_find? h
  exact (List.infix_cons hmarker).trans (List.suffix_append front _).isInfix

/-- A line that starts with an instruction is no comment line. -/
theorem standsAlone_of_instruction
    {text : Text}
    {statement : Statement}
    (h : Line.ofText text = .instruction statement)
    (rest : Text) :
    standsAlone (text.trimEnd ++ rest) = false := by
  obtain ⟨w, hw, -⟩ := Line.ofTrimmed_eq_instruction_iff.mp h
  obtain ⟨c, hhead, hname⟩ := w.head_text
  obtain ⟨lead, hlead, hcore⟩ := exists_trimEnd_eq text
  have hcode : text.trim ≠ [] := hw ▸ w.text_ne_nil
  have hstart : trimStart (text.trimEnd ++ rest) = text.trim ++ rest := by
    rw [hcore, List.append_assoc]
    exact dropWhile_append_of_within hlead ((stops_trim text).1.append hcode rest)
  have hfirst : (text.trim ++ rest).head? = some c := by
    rw [← hw, List.head?_append, hhead]
    rfl
  have hsemicolon : c ≠ ';' := by
    rintro rfl
    exact absurd hname (by decide)
  simp [standsAlone, hstart, hfirst, hsemicolon]

end SuppressionComment

namespace Suppression

theorem mem_ofLines_iff
    {marker : Text}
    {known : Option (List String)}
    {file : Script}
    {number : Int}
    {lines : List Text}
    {entry : Suppression} :
    entry ∈ ofLines marker known file number lines ↔
      ∃ (k : Nat) (text : Text), lines[k]? = some text ∧
        ofLine? marker known file (number + k) text = some entry := by
  induction lines generalizing number with
  | nil =>
      simp [ofLines]
  | cons text rest ih =>
      rw [ofLines, List.mem_append, Option.mem_toList, ih]
      have hnumber (k : Nat) : number + (k + 1 : Nat) = number + 1 + k := by omega
      constructor
      · rintro (hhead | ⟨k, other, hother, htail⟩)
        · exact ⟨0, text, rfl, by simpa using hhead⟩
        · exact ⟨k + 1, other, hother, by rwa [hnumber]⟩
      · rintro ⟨k, other, hother, hentry⟩
        cases k with
        | zero =>
            obtain rfl : text = other := by simpa using hother
            exact Or.inl (by simpa using hentry)
        | succ k =>
            exact Or.inr ⟨k, other, hother, by rwa [hnumber] at hentry⟩

/-- A line that carries no suppression is exchanged for one that does. -/
theorem mem_ofLines_set_iff
    {marker : Text}
    {known : Option (List String)}
    {file : Script}
    {number : Int}
    {lines : List Text}
    {i : Nat}
    {text new : Text}
    {added : Suppression}
    (htext : lines[i]? = some text)
    (hnone : ofLine? marker known file (number + i) text = none)
    (hadded : ofLine? marker known file (number + i) new = some added)
    (entry : Suppression) :
    entry ∈ ofLines marker known file number (lines.set i new) ↔
      entry ∈ ofLines marker known file number lines ∨ entry = added := by
  obtain ⟨hi, -⟩ := List.getElem?_eq_some_iff.mp htext
  simp only [mem_ofLines_iff]
  constructor
  · rintro ⟨k, other, hother, hentry⟩
    by_cases hk : i = k
    · subst hk
      obtain rfl : new = other := by simpa [hi] using hother
      exact Or.inr (Option.some.inj (hentry.symm.trans hadded))
    · rw [List.getElem?_set_ne hk] at hother
      exact Or.inl ⟨k, other, hother, hentry⟩
  · rintro (⟨k, other, hother, hentry⟩ | rfl)
    · have hk : i ≠ k := by
        rintro rfl
        obtain rfl : text = other := Option.some.inj (htext.symm.trans hother)
        simp [hnone] at hentry
      exact ⟨k, other, by rwa [List.getElem?_set_ne hk], hentry⟩
    · exact ⟨i, new, by simp [hi], hadded⟩

theorem lists_flatMap_iff
    {entries : List Suppression}
    {id : String} :
    lists (entries.flatMap Suppression.ids) id = true ↔
      ∃ entry ∈ entries, lists entry.ids id = true := by
  simp only [lists, Bool.or_eq_true, List.contains_iff_mem, List.mem_flatMap]
  constructor
  · rintro (⟨entry, hentry, hid⟩ | ⟨entry, hentry, hstar⟩)
    · exact ⟨entry, hentry, Or.inl hid⟩
    · exact ⟨entry, hentry, Or.inr hstar⟩
  · rintro ⟨entry, hentry, hid | hstar⟩
    · exact Or.inl ⟨entry, hentry, hid⟩
    · exact Or.inr ⟨entry, hentry, hstar⟩

end Suppression

namespace Suppressions

/-- A diagnostic is suppressed everywhere, or by a comment for its line. -/
theorem covers_iff
    {suppressions : Suppressions}
    {diagnostic : Diagnostic} :
    suppressions.covers diagnostic = true ↔
      Suppression.lists suppressions.everywhere diagnostic.id = true ∨
        ∃ entry ∈ suppressions.inline,
          entry.file = diagnostic.location.file ∧ entry.line = diagnostic.location.line ∧
            Suppression.lists entry.ids diagnostic.id = true := by
  simp only [covers, idsAt, Bool.or_eq_true, Suppression.lists_flatMap_iff, List.mem_filter,
    Bool.and_eq_true, beq_iff_eq, and_assoc]

end Suppressions
end CalleeSaved
