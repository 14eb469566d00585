import CalleeSaved.Text.Basic
import Mathlib.Data.List.TakeWhile

/-!
# Longest matches and trimming

The scanners of source text take the longest run of a class of characters.  A run is the longest one
exactly when the class *stops* after it, so each scanner is described by the parts that it cuts a
text into, and not by how it goes about it.

**Longest match.**  `takeWhile_append_of_stops`, `dropWhile_append_of_stops`: a run of the class and
a rest where the class stops are what the scan finds.  `stops_dropWhile`: it always stops there.

**Splitting.**  `mem_splitOnP_iff`: the pieces of a text are the parts between separators.

**Trimming.**  `trimWhile_split` and `trimWhile_eq`: the trimmed text is the only part between two
runs of the class that neither starts nor ends in it.
-/

namespace CalleeSaved
namespace Text

/-- The text does not start with a character of the class. -/
def Stops (p : Char → Bool) (text : Text) : Prop :=
  ∀ c ∈ text.head?, p c = false

/-- Every character of the text belongs to the class. -/
def Within (p : Char → Bool) (text : Text) : Prop :=
  ∀ c ∈ text, p c = true

@[simp] theorem stops_nil (p : Char → Bool) : Stops p [] := by
  simp [Stops]

@[simp] theorem stops_cons
    {p : Char → Bool}
    {c : Char}
    {rest : Text} :
    Stops p (c :: rest) ↔ p c = false := by
  simp [Stops]

theorem Stops.append
    {p : Char → Bool}
    {text : Text}
    (h : Stops p text)
    (hne : text ≠ [])
    (rest : Text) :
    Stops p (text ++ rest) := by
  cases text with
  | nil =>
      exact absurd rfl hne
  | cons c text =>
      simpa using h

theorem Stops.append_stops
    {p : Char → Bool}
    {text rest : Text}
    (h : Stops p text)
    (hrest : Stops p rest) :
    Stops p (text ++ rest) := by
  cases text with
  | nil =>
      exact hrest
  | cons c text =>
      simpa using h

theorem Stops.mono
    {p q : Char → Bool}
    {text : Text}
    (h : Stops q text)
    (hclass : ∀ {c}, p c = true → q c = true) :
    Stops p text := by
  intro c hc
  by_contra hp
  exact absurd (hclass (by simpa using hp)) (by simp [h c hc])

theorem any_head?_eq_false_iff
    {p : Char → Bool}
    {text : Text} :
    text.head?.any p = false ↔ Stops p text := by
  cases text <;> simp

@[simp] theorem within_nil (p : Char → Bool) : Within p [] := by
  simp [Within]

@[simp] theorem within_cons
    {p : Char → Bool}
    {c : Char}
    {rest : Text} :
    Within p (c :: rest) ↔ p c = true ∧ Within p rest := by
  simp [Within]

theorem Within.append
    {p : Char → Bool}
    {text rest : Text}
    (h : Within p text)
    (hrest : Within p rest) :
    Within p (text ++ rest) :=
  fun c hc => (List.mem_append.mp hc).elim (h c) (hrest c)

theorem within_ne_iff
    {c : Char}
    {text : Text} :
    Within (· != c) text ↔ c ∉ text := by
  simp only [Within, bne_iff_ne]
  constructor
  · intro h hmem
    exact h c hmem rfl
  · intro h d hd
    exact ne_of_mem_of_not_mem hd h

section LongestMatch

theorem takeWhile_append_of_stops
    {p : Char → Bool}
    {body rest : Text}
    (hbody : Within p body)
    (hrest : Stops p rest) :
    (body ++ rest).takeWhile p = body := by
  rw [List.takeWhile_append_of_pos hbody]
  cases rest with
  | nil =>
      simp
  | cons c rest =>
      simp [stops_cons.mp hrest]

/-- A scan does not look past a place where the class stops. -/
theorem dropWhile_append_of_stops
    {p : Char → Bool}
    {rest : Text}
    (hrest : Stops p rest)
    (body : Text) :
    (body ++ rest).dropWhile p = body.dropWhile p ++ rest := by
  rw [List.dropWhile_append]
  split
  · next hnone =>
      rw [List.isEmpty_iff.mp hnone]
      cases rest with
      | nil =>
          rfl
      | cons c rest =>
          simp [stops_cons.mp hrest]
  · rfl

theorem dropWhile_append_of_within
    {p : Char → Bool}
    {body rest : Text}
    (hbody : Within p body)
    (hrest : Stops p rest) :
    (body ++ rest).dropWhile p = rest := by
  rw [dropWhile_append_of_stops hrest, List.dropWhile_eq_nil_iff.mpr hbody, List.nil_append]

theorem within_takeWhile
    (p : Char → Bool)
    (text : Text) :
    Within p (text.takeWhile p) :=
  fun _ hc => List.mem_takeWhile_imp hc

theorem stops_dropWhile
    (p : Char → Bool)
    (text : Text) :
    Stops p (text.dropWhile p) := by
  have h := List.head?_dropWhile_not p text
  intro c hc
  rw [Option.mem_def.mp hc] at h
  exact h

end LongestMatch

section Spaces

/-- Spaces and tabs, possibly none. -/
def Spaces (text : Text) : Prop :=
  ∀ c ∈ text, c = ' ' ∨ c = '\t'

instance : DecidablePred Spaces :=
  List.decidableBAll fun c => c = ' ' ∨ c = '\t'

theorem isSpace_iff
    {c : Char} :
    isSpace c = true ↔ c = ' ' ∨ c = '\t' := by
  simp [isSpace]

theorem within_isSpace_iff
    {text : Text} :
    Within isSpace text ↔ Spaces text := by
  simp [Within, Spaces, isSpace_iff]

@[simp] theorem spaces_nil : Spaces [] := by
  simp [Spaces]

theorem Spaces.not_mem
    {text : Text}
    {c : Char}
    (h : Spaces text)
    (hc : isSpace c = false) :
    c ∉ text := by
  intro hmem
  rw [isSpace_iff.mpr (h c hmem)] at hc
  exact absurd hc (by simp)

theorem isBlank_of_isSpace
    {c : Char}
    (h : isSpace c = true) :
    isBlank c = true := by
  rcases isSpace_iff.mp h with rfl | rfl <;> decide

/-- A text that does not start with a blank starts with no spaces. -/
theorem eq_nil_of_stops
    {lead rest : Text}
    (hlead : Spaces lead)
    (hstop : Stops isBlank (lead ++ rest)) :
    lead = [] := by
  cases lead with
  | nil =>
      rfl
  | cons c lead =>
      have hblank := isBlank_of_isSpace (isSpace_iff.mpr (hlead c (by simp)))
      rw [List.cons_append, stops_cons, hblank] at hstop
      exact absurd hstop (by simp)

theorem eq_nil_of_stops_reverse
    (rest : Text)
    {tail : Text}
    (htail : Spaces tail)
    (hstop : Stops isBlank (rest ++ tail).reverse) :
    tail = [] := by
  rw [List.reverse_append] at hstop
  have hspaces : Spaces tail.reverse := fun c hc => htail c (List.mem_reverse.mp hc)
  simpa using eq_nil_of_stops hspaces hstop

end Spaces

section Splitting

theorem eq_of_splitOn_eq_pair
    {sep : Char}
    {text first second : Text}
    (h : text.splitOn sep = [first, second]) :
    text = first ++ sep :: second := by
  have hjoin : [sep].intercalate (text.splitOn sep) = text := List.intercalate_splitOn sep
  rw [h] at hjoin
  simpa using hjoin.symm

theorem splitOn_pair
    {sep : Char}
    {first second : Text}
    (hfirst : sep ∉ first)
    (hsecond : sep ∉ second) :
    (first ++ sep :: second).splitOn sep = [first, second] := by
  rw [List.splitOn_append_cons_self_of_not_mem hfirst, List.splitOn_eq_singleton hsecond]

/-- The word stands in the text between separators, or at its ends. -/
def IsPiece (separates : Char → Bool) (word text : Text) : Prop :=
  Within (!separates ·) word ∧
    ∃ front back, text = front ++ (word ++ back) ∧ Stops (!separates ·) front.reverse ∧
      Stops (!separates ·) back

theorem splitOnP_of_within
    {separates : Char → Bool}
    {text : Text}
    (h : Within (!separates ·) text) :
    text.splitOnP separates = [text] :=
  List.splitOnP_eq_singleton fun c hc => by simpa using h c hc

theorem IsPiece.mem_splitOnP
    {separates : Char → Bool}
    {word text : Text}
    (h : IsPiece separates word text) :
    word ∈ text.splitOnP separates := by
  obtain ⟨hword, front, back, rfl, hfront, hback⟩ := h
  have hhead : word ∈ (word ++ back).splitOnP separates := by
    cases back with
    | nil =>
        rw [List.append_nil, splitOnP_of_within hword]
        exact List.mem_singleton_self word
    | cons c rest =>
        have hc : separates c = true := by simpa using hback
        rw [List.splitOnP_append_cons word rest hc, splitOnP_of_within hword]
        exact List.mem_cons_self
  rcases List.eq_nil_or_concat front with rfl | ⟨init, c, rfl⟩
  · exact hhead
  · have hc : separates c = true := by simpa using hfront
    rw [List.concat_eq_append, List.append_assoc, List.singleton_append,
      List.splitOnP_append_cons init _ hc]
    exact List.mem_append_right _ hhead

/-- A text without separators, or the text up to the first separator and the rest. -/
theorem exists_first_separator
    (separates : Char → Bool)
    (text : Text) :
    Within (!separates ·) text ∨
      ∃ first c rest, text = first ++ c :: rest ∧ Within (!separates ·) first ∧
        separates c = true := by
  have hsplit := List.takeWhile_append_dropWhile (p := (!separates ·)) (l := text)
  have hfirst := within_takeWhile (!separates ·) text
  have hrest := stops_dropWhile (!separates ·) text
  rcases hdrop : text.dropWhile (!separates ·) with _ | ⟨c, rest⟩ <;> rw [hdrop] at hsplit hrest
  · rw [List.append_nil] at hsplit
    exact Or.inl (hsplit ▸ hfirst)
  · exact Or.inr ⟨_, c, rest, hsplit.symm, hfirst, by simpa using hrest⟩

theorem IsPiece.behind
    {separates : Char → Bool}
    {word text : Text}
    (h : IsPiece separates word text)
    (first : Text)
    {c : Char}
    (hc : separates c = true) :
    IsPiece separates word (first ++ c :: text) := by
  obtain ⟨hword, front, back, rfl, hfront, hback⟩ := h
  refine ⟨hword, first ++ c :: front, back, by simp, ?_, hback⟩
  have hstop : Stops (!separates ·) (c :: first.reverse) := by simpa using hc
  simpa using hfront.append_stops hstop

theorem isPiece_of_mem_splitOnP
    {separates : Char → Bool}
    {word text : Text}
    (h : word ∈ text.splitOnP separates) :
    IsPiece separates word text := by
  induction hpieces : text.splitOnP separates generalizing text with
  | nil =>
      rw [hpieces] at h
      cases h
  | cons piece more ih =>
      rw [hpieces] at h
      rcases exists_first_separator separates text with htext | ⟨first, c, rest, rfl, hfirst, hc⟩
      · obtain ⟨rfl, rfl⟩ : text = piece ∧ [] = more := by
          simpa [splitOnP_of_within htext] using hpieces
        obtain rfl : word = text := by simpa using h
        exact ⟨htext, [], [], by simp, by simp, by simp⟩
      · obtain ⟨rfl, rfl⟩ : first = piece ∧ rest.splitOnP separates = more := by
          simpa [List.splitOnP_append_cons first rest hc, splitOnP_of_within hfirst] using hpieces
        rcases List.mem_cons.mp h with rfl | hmore
        · exact ⟨hfirst, [], c :: rest, rfl, by simp, by simpa using hc⟩
        · exact (ih hmore rfl).behind first hc

theorem mem_splitOnP_iff
    {separates : Char → Bool}
    {word text : Text} :
    word ∈ text.splitOnP separates ↔ IsPiece separates word text :=
  ⟨isPiece_of_mem_splitOnP, IsPiece.mem_splitOnP⟩

end Splitting

section Trimming

/-- A run at the end is cut off up to the last character outside the class. -/
theorem trimEndWhile_append
    {p : Char → Bool}
    {body tail : Text}
    (htail : Within p tail)
    (hbody : Stops p body.reverse) :
    trimEndWhile p (body ++ tail) = body := by
  have htail' : Within p tail.reverse := fun c hc => htail c (List.mem_reverse.mp hc)
  rw [trimEndWhile, List.reverse_append, dropWhile_append_of_within htail' hbody,
    List.reverse_reverse]

theorem trimEndWhile_split
    (p : Char → Bool)
    (text : Text) :
    ∃ tail, text = trimEndWhile p text ++ tail ∧ Within p tail ∧
      Stops p (trimEndWhile p text).reverse := by
  refine ⟨(text.reverse.takeWhile p).reverse, ?_, ?_, ?_⟩
  · rw [trimEndWhile, ← List.reverse_append, List.takeWhile_append_dropWhile,
      List.reverse_reverse]
  · intro c hc
    exact within_takeWhile p text.reverse c (List.mem_reverse.mp hc)
  · rw [trimEndWhile, List.reverse_reverse]
    exact stops_dropWhile p text.reverse

/-- The trimmed text is a part of the text between two runs of the class, and it neither starts nor
ends in the class. -/
theorem trimWhile_split
    (p : Char → Bool)
    (text : Text) :
    ∃ lead tail, text = lead ++ trimWhile p text ++ tail ∧ Within p lead ∧ Within p tail ∧
      Stops p (trimWhile p text) ∧ Stops p (trimWhile p text).reverse := by
  obtain ⟨tail, htext, htail, hend⟩ := trimEndWhile_split p (text.dropWhile p)
  refine ⟨text.takeWhile p, tail, ?_, within_takeWhile p text, htail, ?_, hend⟩
  · rw [List.append_assoc, trimWhile, ← htext, List.takeWhile_append_dropWhile]
  · have hstart := stops_dropWhile p text
    rw [htext] at hstart
    change Stops p (trimEndWhile p (text.dropWhile p))
    cases hcore : trimEndWhile p (text.dropWhile p) with
    | nil =>
        exact stops_nil p
    | cons c core =>
        rw [hcore] at hstart
        simpa using hstart

/-- There is only one such part. -/
theorem trimWhile_eq
    {p : Char → Bool}
    {lead core tail : Text}
    (hlead : Within p lead)
    (htail : Within p tail)
    (hstart : Stops p core)
    (hend : Stops p core.reverse) :
    trimWhile p (lead ++ core ++ tail) = core := by
  cases core with
  | nil =>
      rw [trimWhile, List.append_nil, List.dropWhile_eq_nil_iff.mpr (hlead.append htail)]
      rfl
  | cons c core =>
      have hrest : Stops p (c :: core ++ tail) := hstart.append (by simp) tail
      rw [trimWhile, List.append_assoc, dropWhile_append_of_within hlead hrest]
      exact trimEndWhile_append htail hend

/-- Nothing is trimmed off a text that neither starts nor ends with a blank. -/
theorem trim_eq_self
    {text : Text}
    (hstart : Stops isBlank text)
    (hend : Stops isBlank text.reverse) :
    text.trim = text := by
  have hcut := trimWhile_eq (within_nil isBlank) (within_nil isBlank) hstart hend
  rwa [List.nil_append, List.append_nil] at hcut

/-- The text neither starts nor ends with a space. -/
def Tight (text : Text) : Prop :=
  Stops isSpace text ∧ Stops isSpace text.reverse

/-- Trimming undoes the spaces around such a text. -/
theorem Tight.trimSpaces_eq
    {lead core tail : Text}
    (h : Tight core)
    (hlead : Spaces lead)
    (htail : Spaces tail) :
    trimSpaces (lead ++ core ++ tail) = core :=
  trimWhile_eq (within_isSpace_iff.mpr hlead) (within_isSpace_iff.mpr htail) h.1 h.2

theorem trimSpaces_split
    (text : Text) :
    ∃ lead tail, text = lead ++ trimSpaces text ++ tail ∧ Spaces lead ∧ Spaces tail := by
  obtain ⟨lead, tail, htext, hlead, htail, -, -⟩ := trimWhile_split isSpace text
  exact ⟨lead, tail, htext, within_isSpace_iff.mp hlead, within_isSpace_iff.mp htail⟩

theorem stops_trim
    (text : Text) :
    Stops isBlank text.trim ∧ Stops isBlank text.trim.reverse := by
  obtain ⟨-, -, -, -, -, hstart, hend⟩ := trimWhile_split isBlank text
  exact ⟨hstart, hend⟩

theorem trim_trim
    (text : Text) :
    text.trim.trim = text.trim :=
  trim_eq_self (stops_trim text).1 (stops_trim text).2

theorem mem_of_mem_trim
    {c : Char}
    {text : Text}
    (h : c ∈ text.trim) :
    c ∈ text := by
  obtain ⟨lead, tail, htext, -⟩ := trimWhile_split isBlank text
  rw [htext]
  exact List.mem_append_left tail (List.mem_append_right lead h)

theorem Spaces.within_isBlank
    {text : Text}
    (h : Spaces text) :
    Within isBlank text :=
  fun c hc => isBlank_of_isSpace (isSpace_iff.mpr (h c hc))

theorem trim_append_blanks
    (text : Text)
    {tail : Text}
    (htail : Within isBlank tail) :
    trim (text ++ tail) = trim text := by
  obtain ⟨lead, more, htext, hlead, hmore, hstart, hend⟩ := trimWhile_split isBlank text
  have hjoin : text ++ tail = lead ++ trim text ++ (more ++ tail) := by
    rw [← List.append_assoc]
    exact congrArg (· ++ tail) htext
  rw [hjoin]
  exact trimWhile_eq hlead (hmore.append htail) hstart hend

theorem mem_of_mem_trimEnd
    {c : Char}
    {text : Text}
    (h : c ∈ text.trimEnd) :
    c ∈ text := by
  obtain ⟨tail, htext, -⟩ := trimEndWhile_split isBlank text
  rw [htext]
  exact List.mem_append_left tail h

/-- Trimming the end leaves the blanks in front of the trimmed text. -/
theorem exists_trimEnd_eq
    (text : Text) :
    ∃ lead, Within isBlank lead ∧ text.trimEnd = lead ++ text.trim := by
  obtain ⟨lead, tail, htext, hlead, htail, hstart, hend⟩ := trimWhile_split isBlank text
  change text = lead ++ text.trim ++ tail at htext
  change Stops isBlank text.trim.reverse at hend
  have hcut := congrArg trimEnd htext
  by_cases hcore : text.trim = []
  · refine ⟨[], within_nil isBlank, hcut.trans ?_⟩
    rw [hcore, List.append_nil]
    have hnil : Stops isBlank ([] : Text).reverse := stops_nil isBlank
    exact trimEndWhile_append (hlead.append htail) hnil
  · refine ⟨lead, hlead, hcut.trans (trimEndWhile_append htail ?_)⟩
    rw [List.reverse_append]
    exact hend.append (by simpa using hcore) lead.reverse

theorem trim_blanks_append
    {lead : Text}
    (hlead : Within isBlank lead)
    (text : Text) :
    trim (lead ++ text) = trim text := by
  rw [trim, trimWhile, List.dropWhile_append_of_pos hlead]
  rfl

/-- Trimming does not see blanks that are already gone. -/
theorem trim_dropWhile_isSpace
    (text : Text) :
    trim (text.dropWhile isSpace) = trim text := by
  have hlead : Within isBlank (text.takeWhile isSpace) :=
    fun c hc => isBlank_of_isSpace (within_takeWhile isSpace text c hc)
  have hskip := trim_blanks_append hlead (text.dropWhile isSpace)
  rw [List.takeWhile_append_dropWhile] at hskip
  exact hskip.symm

end Trimming

end Text
end CalleeSaved
