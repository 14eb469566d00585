import CalleeSaved.Proofs.Diagnostic.Marker

/-!
# Suppression comments

What a suppression comment is, without the search for it.

**Marker.**  A line carries a suppression if the marker occurs, as a word of its own, behind the
first semicolon.  The first such occurrence counts.  `inComment?_eq_some_iff` is about the text
behind one semicolon, and `find?_eq_some_iff` about a line: no later semicolon shows a marker that
the first one hides.

**Identifiers.**  They are the words of the longest run of word characters, blanks and commas after
the marker: `mem_ids_iff`, and `mem_knownIds_iff` when only some are known.

**Target.**  `exists_ofLine?_lists_iff`: which identifiers a line suppresses, and for which line.
-/

namespace CalleeSaved

open Text

namespace SuppressionComment

section Markers

/-- The marker occurs in a text as a word of its own, between `front` and `after`.  The text stands
behind the given character. -/
def Occurs (before : Option Char) (marker front after text : Text) : Prop :=
  text = front ++ (marker ++ after) ∧ endsWord (front.getLast?.or before) = false ∧
    endsWord after.head? = false

/-- No other occurrence starts earlier. -/
def OccursFirst (before : Option Char) (marker front after text : Text) : Prop :=
  Occurs before marker front after text ∧
    ∀ other rest, Occurs before marker other rest text → front.length ≤ other.length

/-- The line carries a suppression: the marker occurs behind the first semicolon, and `after`
follows its first occurrence. -/
def Carries (marker line after : Text) : Prop :=
  ∃ code comment front, line = code ++ ';' :: comment ∧ ';' ∉ code ∧
    OccursFirst (some ';') marker front after comment

theorem Delimited.ne_nil
    {marker : Text}
    (h : Delimited marker) :
    marker ≠ [] := by
  rintro rfl
  cases h.1

theorem afterMarker?_eq_some_iff
    {marker : Text}
    (hmarker : Delimited marker)
    {before : Option Char}
    {text after : Text} :
    afterMarker? marker before text = some after ↔ Occurs before marker [] after text := by
  obtain ⟨c, hc⟩ := Option.ne_none_iff_exists'.mp (mt List.head?_eq_none_iff.mp hmarker.ne_nil)
  obtain ⟨d, hd⟩ := Option.ne_none_iff_exists'.mp (mt List.getLast?_eq_none_iff.mp hmarker.ne_nil)
  obtain ⟨hfirst, hlast⟩ : endsWord (some c) = true ∧ endsWord (some d) = true := by
    rw [← hc, ← hd]
    exact hmarker
  have hfound (rest : Text) :
      afterMarker? marker before (marker ++ rest) =
        if endsWord before = false ∧ endsWord rest.head? = false then some rest else none := by
    simp [afterMarker?, wordBoundary, hc, hd, hfirst, hlast]
  constructor
  · intro h
    obtain ⟨rest, rfl⟩ := isPrefix_of_afterMarker? h
    rw [hfound] at h
    split at h
    · next hends =>
        cases h
        exact ⟨rfl, hends⟩
    · cases h
  · rintro ⟨rfl, hends⟩
    exact (hfound after).trans (if_pos hends)

theorem not_occurs_nil
    {marker : Text}
    (hmarker : Delimited marker)
    {before : Option Char}
    {front after : Text} :
    ¬ Occurs before marker front after [] := by
  rintro ⟨htext, -⟩
  simp [hmarker.ne_nil] at htext

theorem occurs_cons_iff
    {before : Option Char}
    {marker front after text : Text}
    {c : Char} :
    Occurs before marker (c :: front) after (c :: text) ↔
      Occurs (some c) marker front after text := by
  simp [Occurs, List.getLast?_cons]

/-- An occurrence at the head of the text is the first one. -/
theorem occursFirst_iff_of_head
    {before : Option Char}
    {marker front after rest text : Text}
    (hhead : Occurs before marker [] rest text) :
    OccursFirst before marker front after text ↔ front = [] ∧ after = rest := by
  constructor
  · rintro ⟨hoccurs, hfirst⟩
    obtain rfl : front = [] := List.length_eq_zero_iff.mp (Nat.le_zero.mp (hfirst [] rest hhead))
    exact ⟨rfl, List.append_cancel_left (hoccurs.1.symm.trans hhead.1)⟩
  · rintro ⟨rfl, rfl⟩
    exact ⟨hhead, fun _ _ _ => Nat.zero_le _⟩

/-- Without an occurrence at the head, the first one is that of the rest. -/
theorem occursFirst_cons_iff
    {before : Option Char}
    {marker front after text : Text}
    {c : Char}
    (hhead : ∀ rest, ¬ Occurs before marker [] rest (c :: text)) :
    OccursFirst before marker front after (c :: text) ↔
      ∃ tail, front = c :: tail ∧ OccursFirst (some c) marker tail after text := by
  have hfront {other rest : Text} (h : Occurs before marker other rest (c :: text)) :
      ∃ tail, other = c :: tail ∧ Occurs (some c) marker tail rest text := by
    cases other with
    | nil =>
        exact absurd h (hhead rest)
    | cons d tail =>
        obtain rfl : c = d := (List.cons.inj h.1).1
        exact ⟨tail, rfl, occurs_cons_iff.mp h⟩
  constructor
  · rintro ⟨hoccurs, hfirst⟩
    obtain ⟨tail, rfl, htail⟩ := hfront hoccurs
    refine ⟨tail, rfl, htail, fun other rest hother => ?_⟩
    exact Nat.le_of_succ_le_succ (hfirst (c :: other) rest (occurs_cons_iff.mpr hother))
  · rintro ⟨tail, rfl, htail, hfirst⟩
    refine ⟨occurs_cons_iff.mpr htail, fun other rest hother => ?_⟩
    obtain ⟨others, rfl, hothers⟩ := hfront hother
    exact Nat.succ_le_succ (hfirst others rest hothers)

theorem Occurs.exists_first
    {before : Option Char}
    {marker front after text : Text}
    (h : Occurs before marker front after text) :
    ∃ start rest, OccursFirst before marker start rest text := by
  induction front generalizing before text with
  | nil =>
      exact ⟨[], after, h, fun _ _ _ => Nat.zero_le _⟩
  | cons c front ih =>
      obtain ⟨tail, rfl⟩ : ∃ tail, text = c :: tail := ⟨_, h.1⟩
      by_cases hhead : ∃ rest, Occurs before marker [] rest (c :: tail)
      · obtain ⟨rest, hrest⟩ := hhead
        exact ⟨[], rest, (occursFirst_iff_of_head hrest).mpr ⟨rfl, rfl⟩⟩
      · obtain ⟨start, rest, hfirst⟩ := ih (occurs_cons_iff.mp h)
        exact ⟨c :: start, rest,
          (occursFirst_cons_iff (not_exists.mp hhead)).mpr ⟨start, rfl, hfirst⟩⟩

theorem inComment?_eq_some_iff
    {marker : Text}
    (hmarker : Delimited marker)
    {before : Option Char}
    {text after : Text}
    (htext : '\n' ∉ text) :
    inComment? marker before text = some after ↔
      ∃ front, OccursFirst before marker front after text := by
  induction text generalizing before with
  | nil =>
      rw [inComment?, afterMarker?_eq_some_iff hmarker]
      constructor
      · intro h
        exact absurd h (not_occurs_nil hmarker)
      · rintro ⟨front, h, -⟩
        exact absurd h (not_occurs_nil hmarker)
  | cons c text ih =>
      obtain ⟨hc, hrest⟩ : '\n' ≠ c ∧ '\n' ∉ text := by simpa using htext
      rw [inComment?]
      cases hfind : afterMarker? marker before (c :: text) with
      | some found =>
          have hhead := (afterMarker?_eq_some_iff hmarker).mp hfind
          simp [occursFirst_iff_of_head hhead, eq_comm]
      | none =>
          have hhead (rest : Text) : ¬ Occurs before marker [] rest (c :: text) := by
            intro h
            simp [(afterMarker?_eq_some_iff hmarker).mpr h] at hfind
          have hline : (c == '\n') = false := by simpa using hc.symm
          simp [hline, ih hrest, occursFirst_cons_iff hhead]

/-- An occurrence behind a later semicolon is one behind an earlier semicolon. -/
theorem Occurs.behind
    {marker front after text : Text}
    (h : Occurs (some ';') marker front after text)
    (earlier : Text)
    (before : Option Char) :
    Occurs before marker (earlier ++ ';' :: front) after (earlier ++ ';' :: text) := by
  obtain ⟨rfl, hends⟩ := h
  refine ⟨by simp, ?_⟩
  simpa [List.getLast?_append, List.getLast?_cons] using hends

theorem exists_occurs_of_find?
    {marker line after : Text}
    (hmarker : Delimited marker)
    (hline : '\n' ∉ line)
    (h : find? marker line = some after) :
    ∃ code comment front rest, line = code ++ ';' :: comment ∧ ';' ∉ code ∧
      Occurs (some ';') marker front rest comment := by
  obtain ⟨earlier, text, rfl, hfound⟩ := exists_inComment?_of_find? h
  have htext : '\n' ∉ text := fun hmem => hline (by simp [hmem])
  obtain ⟨front, hoccurs, -⟩ := (inComment?_eq_some_iff hmarker htext).mp hfound
  by_cases hmem : ';' ∈ earlier
  · obtain ⟨code, between, rfl, hcode⟩ := List.eq_append_cons_of_mem hmem
    exact ⟨code, between ++ ';' :: text, between ++ ';' :: front, after, by simp, hcode,
      hoccurs.behind between _⟩
  · exact ⟨earlier, text, front, after, rfl, hmem, hoccurs⟩

theorem Carries.find?_eq
    {marker line after : Text}
    (h : Carries marker line after)
    (hmarker : Delimited marker)
    (hline : '\n' ∉ line) :
    find? marker line = some after := by
  obtain ⟨code, comment, front, rfl, hcode, hfirst⟩ := h
  have hcomment : '\n' ∉ comment := fun hmem => hline (by simp [hmem])
  rw [find?_append hcode, find?, (inComment?_eq_some_iff hmarker hcomment).mpr ⟨front, hfirst⟩]
  rfl

theorem find?_eq_some_iff
    {marker : Text}
    (hmarker : Delimited marker)
    {line after : Text}
    (hline : '\n' ∉ line) :
    find? marker line = some after ↔ Carries marker line after := by
  constructor
  · intro h
    obtain ⟨code, comment, front, found, rfl, hcode, hoccurs⟩ :=
      exists_occurs_of_find? hmarker hline h
    obtain ⟨start, rest, hfirst⟩ := hoccurs.exists_first
    have hcarries : Carries marker (code ++ ';' :: comment) rest :=
      ⟨code, comment, start, rfl, hcode, hfirst⟩
    obtain rfl : after = rest := Option.some.inj (h.symm.trans (hcarries.find?_eq hmarker hline))
    exact hcarries
  · intro h
    exact h.find?_eq hmarker hline

end Markers

section Identifiers

/-- The identifier is a word of the longest run of word characters, blanks and commas at the head of
the text. -/
def Lists (after : Text) (id : String) : Prop :=
  ∃ run rest word, after = run ++ rest ∧ Within inList run ∧ Stops inList rest ∧
    IsPiece separates word run ∧ word ≠ [] ∧ id = String.ofList word

/-- The identifier is listed, and known if only some are known. -/
def Names (known : Option (List String)) (after : Text) (id : String) : Prop :=
  Lists after id ∧ ∀ names ∈ known, id ∈ names

theorem mem_ids_iff
    {after : Text}
    {id : String} :
    id ∈ ids after ↔ Lists after id := by
  simp only [ids, List.mem_map, List.mem_filter, mem_splitOnP_iff, Bool.not_eq_true',
    List.isEmpty_eq_false_iff]
  constructor
  · rintro ⟨word, ⟨hpiece, hne⟩, rfl⟩
    exact ⟨_, after.dropWhile inList, word, List.takeWhile_append_dropWhile.symm,
      within_takeWhile inList after, stops_dropWhile inList after, hpiece, hne, rfl⟩
  · rintro ⟨run, rest, word, rfl, hrun, hrest, hpiece, hne, rfl⟩
    rw [takeWhile_append_of_stops hrun hrest]
    exact ⟨word, ⟨hpiece, hne⟩, rfl⟩

theorem mem_knownIds_iff
    {known : Option (List String)}
    {after : Text}
    {id : String} :
    id ∈ knownIds known after ↔ Names known after id := by
  cases known with
  | none =>
      simp [knownIds, Names, mem_ids_iff]
  | some names =>
      simp [knownIds, Names, mem_ids_iff]

/-- A star is no identifier, so it never comes from a comment that lists identifiers. -/
theorem star_not_mem_knownIds
    (known : Option (List String))
    (after : Text) :
    "*" ∉ knownIds known after := by
  intro h
  obtain ⟨hlists, -⟩ := mem_knownIds_iff.mp h
  obtain ⟨run, rest, word, -, hrun, -, ⟨-, front, back, rfl, -⟩, -, hid⟩ := hlists
  obtain rfl : ['*'] = word := by simpa using congrArg String.toList hid
  exact absurd (hrun '*' (by simp)) (by decide)

end Identifiers

section Lines

/-- The first character of the line that is not blank is a semicolon. -/
def CommentOnly (line : Text) : Prop :=
  ∃ lead rest, line = lead ++ ';' :: rest ∧ Within isBlank lead

theorem standsAlone_iff
    {line : Text} :
    standsAlone line = true ↔ CommentOnly line := by
  rw [standsAlone, trimStart, beq_iff_eq]
  constructor
  · intro h
    obtain ⟨rest, hrest⟩ := List.head?_eq_some_iff.mp h
    refine ⟨line.takeWhile isBlank, rest, ?_, within_takeWhile isBlank line⟩
    rw [← hrest]
    exact List.takeWhile_append_dropWhile.symm
  · rintro ⟨lead, rest, rfl, hlead⟩
    have hstop : Stops isBlank (';' :: rest) := stops_cons.mpr (by decide)
    rw [dropWhile_append_of_within hlead hstop]
    rfl

/-- The line carries a comment that names the identifier, or that names none. -/
def Silences (marker : Text) (known : Option (List String)) (line : Text) (id : String) : Prop :=
  ∃ after, Carries marker line after ∧
    (Names known after id ∨ ∀ other, ¬ Names known after other)

end Lines

end SuppressionComment

namespace Suppression

open SuppressionComment

theorem file_of_ofLine?
    {marker : Text}
    {known : Option (List String)}
    {file : Script}
    {number : Int}
    {line : Text}
    {entry : Suppression}
    (h : ofLine? marker known file number line = some entry) :
    entry.file = file := by
  rw [ofLine?] at h
  split at h
  · cases h
  · cases h
    rfl

/-- What a comment suppresses: the identifiers that it names, or everything. -/
theorem lists_named_iff
    {known : Option (List String)}
    {after : Text}
    {id : String} :
    let named := knownIds known after
    lists (if named.isEmpty then ["*"] else named) id = true ↔
      Names known after id ∨ ∀ other, ¬ Names known after other := by
  intro named
  have hmem {other : String} : other ∈ named ↔ Names known after other := mem_knownIds_iff
  by_cases hnamed : named = []
  · have hnone (other : String) : ¬ Names known after other := by
      rw [← hmem, hnamed]
      exact List.not_mem_nil
    simp [hnamed, lists, hnone]
  · obtain ⟨other, hother⟩ := List.exists_mem_of_ne_nil named hnamed
    have hstar : "*" ∉ named := star_not_mem_knownIds known after
    have hsome : ¬ ∀ other, ¬ Names known after other := fun hnone => hnone other (hmem.mp hother)
    simp [lists, hnamed, hstar, hmem, hsome]

/-- A comment behind code is for its own line, and a comment alone on a line is for the next one. -/
theorem exists_ofLine?_lists_iff
    {marker : Text}
    (hmarker : Delimited marker)
    {known : Option (List String)}
    {file : Script}
    {number target : Int}
    {line : Text}
    (hline : '\n' ∉ line)
    {id : String} :
    (∃ entry, ofLine? marker known file number line = some entry ∧ entry.line = target ∧
      lists entry.ids id = true) ↔
      Silences marker known line id ∧
        (¬ CommentOnly line ∧ target = number ∨ CommentOnly line ∧ target = number + 1) := by
  have htarget : (if standsAlone line then number + 1 else number) = target ↔
      (¬ CommentOnly line ∧ target = number ∨ CommentOnly line ∧ target = number + 1) := by
    by_cases honly : CommentOnly line
    · simp [standsAlone_iff.mpr honly, honly, eq_comm]
    · have hbehind : standsAlone line = false := by simpa using mt standsAlone_iff.mp honly
      simp [hbehind, honly, eq_comm]
  rw [← htarget]
  constructor
  · rintro ⟨entry, hentry, hnumber, hlists⟩
    rw [ofLine?] at hentry
    split at hentry
    · cases hentry
    · next after hfind =>
        cases hentry
        have hcarries := (find?_eq_some_iff hmarker hline).mp hfind
        exact ⟨⟨after, hcarries, lists_named_iff.mp hlists⟩, hnumber⟩
  · rintro ⟨⟨after, hcarries, hnames⟩, hnumber⟩
    have hfind := (find?_eq_some_iff hmarker hline).mpr hcarries
    exact ⟨_, by rw [ofLine?, hfind], hnumber, lists_named_iff.mpr hnames⟩

end Suppression
end CalleeSaved
