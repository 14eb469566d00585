import CalleeSaved.Proofs.Diagnostic.InlineSuppression
import CalleeSaved.Proofs.Routine.InertLine

/-!
# Markers

The marker of a suppression is a choice of the user, and any text that is not blank is taken for
one.  A comment that consists of the marker is recognised only if the marker starts and ends with a
word character, since a marker has to stand as a word of its own.

**Search.**  `length_lt_of_find?`: a marker is found only in a longer line.  `find?_ofMarker`: the
search in the comment that consists of the marker.

**Cover.**  `covers_iff_marked`: a line is covered by a comment alone on the line before it, or by
one behind its code.  `silent_iff`: a clobbering line is not reported exactly when it is covered.

**Result.**  `silent_iff_delimited`, with `silent_fails_at_sign` for a marker that is never
recognised.
-/

namespace CalleeSaved

open Text

namespace SuppressionComment

/-- The comment that consists of the marker. -/
def ofMarker (marker : Text) : Text :=
  ';' :: ' ' :: marker

/-- The line with the marker in a comment behind it. -/
def behind (marker text : Text) : Text :=
  text ++ ' ' :: ofMarker marker

/-- The marker starts and ends with a word character. -/
def Delimited (marker : Text) : Prop :=
  endsWord marker.head? = true ∧ endsWord marker.getLast? = true

instance : DecidablePred Delimited :=
  fun _ => inferInstanceAs (Decidable (_ ∧ _))

theorem length_lt_of_find?
    {marker text after : Text}
    (h : find? marker text = some after) :
    marker.length < text.length := by
  obtain ⟨front, rest, rfl, hmarker⟩ := exists_comment_of_find? h
  have hlength := hmarker.length_le
  simp only [List.length_append, List.length_cons]
  omega

theorem eq_of_isPrefix_cons_self
    {text : Text}
    {a : Char}
    (h : text <+: a :: text) :
    ∀ c ∈ text, c = a := by
  induction text generalizing a with
  | nil =>
      simp
  | cons b text ih =>
      obtain ⟨rfl, htail⟩ := List.cons_prefix_cons.mp h
      intro c hc
      rcases List.mem_cons.mp hc with rfl | hc
      · rfl
      · exact ih htail c hc

/-- A space in front of a marker that is not blank does not start the marker. -/
theorem afterMarker?_space
    {marker : Text}
    (hmarker : marker.allBlank = false)
    (before : Option Char) :
    afterMarker? marker before (' ' :: marker) = none := by
  cases hfind : afterMarker? marker before (' ' :: marker) with
  | none =>
      rfl
  | some after =>
      have hspaces := eq_of_isPrefix_cons_self (isPrefix_of_afterMarker? hfind)
      have hblank : marker.allBlank = true :=
        List.all_eq_true.mpr fun c hc => hspaces c hc ▸ by decide
      rw [hmarker] at hblank
      cases hblank

/-- Between a space and the end of the line a marker is recognised by its first and its last
character. -/
theorem afterMarker?_self
    {marker : Text}
    (hne : marker ≠ []) :
    afterMarker? marker (some ' ') marker = if Delimited marker then some [] else none := by
  obtain ⟨last, hlast⟩ := Option.ne_none_iff_exists'.mp (mt List.getLast?_eq_none_iff.mp hne)
  have hspace : endsWord (some ' ') = false := by decide
  have hnone : endsWord none = false := rfl
  have hfound :
      (marker.isPrefixOf marker && wordBoundary (some ' ') marker.head? &&
        wordBoundary (marker.getLast?.or (some ' ')) none) = true ↔ Delimited marker := by
    simp [wordBoundary, Delimited, hlast, hspace, hnone]
  simp only [afterMarker?, List.drop_length, List.head?_nil]
  by_cases h : Delimited marker
  · rw [if_pos h, if_pos (hfound.mpr h)]
  · rw [if_neg h, if_neg (mt hfound.mp h)]

theorem inComment?_self
    {marker : Text}
    (hne : marker ≠ []) :
    inComment? marker (some ' ') marker = if Delimited marker then some [] else none := by
  obtain ⟨c, rest, hmarker⟩ := List.exists_cons_of_ne_nil hne
  have hshort : inComment? marker (some c) rest = none := by
    refine Option.eq_none_iff_forall_ne_some.mpr fun after hfind => ?_
    have hlength := (isInfix_of_inComment? hfind).length_le
    rw [hmarker, List.length_cons] at hlength
    omega
  have hself := afterMarker?_self hne
  nth_rewrite 2 [hmarker]
  rw [inComment?, ← hmarker, hself, hshort]
  split <;> simp_all

/-- The search in the comment that consists of the marker. -/
theorem find?_ofMarker
    {marker : Text}
    (hmarker : marker.allBlank = false) :
    find? marker (ofMarker marker) = if Delimited marker then some [] else none := by
  have hne : marker ≠ [] := by
    rintro rfl
    cases hmarker
  have hcomment : inComment? marker (some ';') (' ' :: marker) =
      if Delimited marker then some [] else none := by
    rw [inComment?, afterMarker?_space hmarker, inComment?_self hne]
    rfl
  have hlater : find? marker (' ' :: marker) = none := by
    refine Option.eq_none_iff_forall_ne_some.mpr fun after hfind => ?_
    exact Nat.lt_irrefl _ (length_lt_of_find? hfind)
  rw [ofMarker, find?, hcomment, hlater]
  by_cases h : Delimited marker <;> simp [h]

theorem find?_behind
    {text : Text}
    (hcode : ';' ∉ text)
    (marker : Text) :
    find? marker (behind marker text) = find? marker (ofMarker marker) := by
  have hspace : ';' ∉ text ++ [' '] := by simp [hcode]
  have hsplit : behind marker text = (text ++ [' ']) ++ ofMarker marker := by simp [behind]
  rw [hsplit, find?_append hspace]

theorem standsAlone_ofMarker
    (marker : Text) :
    standsAlone (ofMarker marker) = true := by
  rfl

theorem exists_behind_eq
    (marker text : Text) :
    ∃ gap, Within isBlank gap ∧ behind marker text = text.trimEnd ++ (gap ++ ofMarker marker) := by
  obtain ⟨tail, htail, hblank, -⟩ := trimEndWhile_split isBlank text
  change text = text.trimEnd ++ tail at htail
  refine ⟨tail ++ [' '], hblank.append (by simp [Within, isBlank]), ?_⟩
  conv_lhs => rw [htail]
  simp [behind]

theorem standsAlone_behind
    {text : Text}
    {statement : Statement}
    (h : Line.ofText text = .instruction statement)
    (marker : Text) :
    standsAlone (behind marker text) = false := by
  obtain ⟨gap, -, hbehind⟩ := exists_behind_eq marker text
  rw [hbehind]
  exact standsAlone_of_instruction h _

end SuppressionComment

/-- An instruction without operands writes nothing. -/
theorem Instruction.written_eq_nil
    {statement : Statement}
    (h : statement.operands = []) :
    written ⟨statement, statement.action⟩ = [] := by
  have hassigned :
      ((Operand.destination? (Operand.split [])).map Operand.written).getD [] = [] := by decide
  have hparse : Transfer.parse? [] = none := by decide
  have htransfer : statement.transfer? = none := by
    simp only [Statement.transfer?, h, hparse, ite_self]
  simp only [written, Statement.action, htransfer, Statement.assigned, h, hassigned,
    ite_self]

/-- A clobbering line holds an instruction with operands. -/
theorem FileReport.exists_operands_of_clobber
    {settings : Settings}
    {path : Script}
    {xs ys : List Text}
    {text : Text}
    (h : ∃ clobber ∈ (ofLines settings path (xs ++ text :: ys)).clobbers,
      clobber.line = xs.length) :
    ∃ statement, Line.ofText text = .instruction statement ∧ statement.operands ≠ [] := by
  obtain ⟨clobber, hclobber, hline⟩ := h
  obtain ⟨routine, hroutine, hmem⟩ := List.mem_flatMap.mp hclobber
  obtain ⟨k, other, statement, hk, hother, hread, hwritten⟩ :=
    exists_writer_of_mem_clobbers hroutine hmem
  obtain rfl : k = xs.length := by omega
  obtain rfl : text = other := by simpa using hother
  refine ⟨statement, hread, fun hnil => ?_⟩
  simp [Instruction.written_eq_nil hnil] at hwritten

theorem Line.ofText_behind
    {text : Text}
    {statement : Statement}
    {marker : Text}
    (h : ofText text = .instruction statement)
    (hoperands : statement.operands ≠ [])
    (hcode : ';' ∉ text)
    (hmarker : '\n' ∉ marker) :
    ofText (SuppressionComment.behind marker text) = ofText text := by
  obtain ⟨gap, hgap, hbehind⟩ := SuppressionComment.exists_behind_eq marker text
  rw [hbehind, h]
  exact ofText_append_gap h hcode hgap (fun hnil => absurd hnil hoperands) (by simp [hmarker])

namespace Suppression

/-- Only one identifier is known, so every suppression lists it. -/
theorem lists_known
    (after : Text) :
    let named := SuppressionComment.knownIds (some Inspector.knownIds) after
    lists (if named.isEmpty then ["*"] else named) Diagnostic.clobberId = true := by
  intro named
  split
  · simp [lists]
  · next hnamed =>
      obtain ⟨id, hid⟩ := List.exists_mem_of_ne_nil named (by simpa using hnamed)
      obtain ⟨-, hknown⟩ := List.mem_filter.mp hid
      obtain rfl : id = Diagnostic.clobberId := by simpa [Inspector.knownIds] using hknown
      simp [lists, hid]

/-- What a line suppresses, by the comment on it. -/
theorem exists_ofLine?_iff
    {marker : Text}
    {file : Script}
    {number target : Int}
    {text : Text} :
    (∃ entry, ofLine? marker (some Inspector.knownIds) file number text = some entry ∧
        entry.file = file ∧ entry.line = target ∧
          lists entry.ids Diagnostic.clobberId = true) ↔
      (SuppressionComment.find? marker text).isSome = true ∧
        target = if SuppressionComment.standsAlone text then number + 1 else number := by
  rw [ofLine?]
  cases SuppressionComment.find? marker text with
  | none =>
      simp
  | some after =>
      constructor
      · rintro ⟨entry, hentry, -, rfl, -⟩
        cases hentry
        exact ⟨rfl, rfl⟩
      · rintro ⟨-, rfl⟩
        exact ⟨_, rfl, rfl, rfl, lists_known after⟩

end Suppression

namespace SuppressionComment

/-- The line consists of a comment that holds the marker. -/
def Precedes (marker line : Text) : Prop :=
  (find? marker line).isSome = true ∧ standsAlone line = true

/-- The line holds the marker in a comment behind code. -/
def Trails (marker line : Text) : Prop :=
  (find? marker line).isSome = true ∧ standsAlone line = false

theorem not_trails
    {text : Text}
    (hcode : ';' ∉ text)
    (marker : Text) :
    ¬ Trails marker text := by
  simp [Trails, find?_eq_none hcode]

theorem precedes_ofMarker_iff
    {marker : Text}
    (hmarker : marker.allBlank = false) :
    Precedes marker (ofMarker marker) ↔ Delimited marker := by
  rw [Precedes, find?_ofMarker hmarker, standsAlone_ofMarker]
  by_cases h : Delimited marker <;> simp [h]

theorem trails_behind_iff
    {marker text : Text}
    {statement : Statement}
    (hmarker : marker.allBlank = false)
    (hread : Line.ofText text = .instruction statement)
    (hcode : ';' ∉ text) :
    Trails marker (behind marker text) ↔ Delimited marker := by
  rw [Trails, find?_behind hcode, find?_ofMarker hmarker, standsAlone_behind hread]
  by_cases h : Delimited marker <;> simp [h]

end SuppressionComment

namespace Inspector

open SuppressionComment

/-- A clobber is suppressed by any comment with the marker that is meant for its line. -/
theorem covers_iff_exists_marker
    {settings : Settings}
    {lines : List Text}
    {d : Diagnostic}
    (hid : d.id = Diagnostic.clobberId) :
    ((new settings).suppressions.load d.location.file lines).covers d = true ↔
      ∃ (k : Nat) (line : Text), lines[k]? = some line ∧
        (find? settings.marker line).isSome = true ∧
          d.location.line = if standsAlone line then (1 + k : Int) + 1 else 1 + k := by
  rw [covers_new_iff, hid]
  constructor
  · rintro ⟨entry, hentry, hplace⟩
    obtain ⟨k, line, hline, hread⟩ := Suppression.mem_ofLines_iff.mp hentry
    exact ⟨k, line, hline, Suppression.exists_ofLine?_iff.mp ⟨entry, hread, hplace⟩⟩
  · rintro ⟨k, line, hline, hmarked⟩
    obtain ⟨entry, hread, hplace⟩ := Suppression.exists_ofLine?_iff.mpr hmarked
    exact ⟨entry, Suppression.mem_ofLines_iff.mpr ⟨k, line, hline, hread⟩, hplace⟩

/-- A clobber is suppressed by a comment alone on the line before it, or behind its code. -/
theorem covers_iff_marked
    {xs : List Text}
    {d : Diagnostic}
    (hid : d.id = Diagnostic.clobberId)
    (hline : d.location.line = xs.length + 1)
    (settings : Settings)
    (text : Text)
    (ys : List Text) :
    ((new settings).suppressions.load d.location.file (xs ++ text :: ys)).covers d = true ↔
      (∃ line, xs.getLast? = some line ∧ Precedes settings.marker line) ∨
        Trails settings.marker text := by
  rw [covers_iff_exists_marker hid, hline]
  constructor
  · rintro ⟨k, line, hget, hfound, htarget⟩
    cases halone : standsAlone line with
    | true =>
        rw [halone, if_pos rfl] at htarget
        rw [List.getElem?_append_left (by omega)] at hget
        refine Or.inl ⟨line, ?_, hfound, halone⟩
        rw [List.getLast?_eq_getElem?, ← hget]
        congr 1
        omega
    | false =>
        rw [halone, if_neg Bool.false_ne_true] at htarget
        obtain rfl : k = xs.length := by omega
        obtain rfl : text = line := by simpa using hget
        exact Or.inr ⟨hfound, halone⟩
  · rintro (⟨line, hlast, hfound, halone⟩ | ⟨hfound, halone⟩)
    · obtain ⟨front, rfl⟩ := List.getLast?_eq_some_iff.mp hlast
      refine ⟨front.length, line, by simp, hfound, ?_⟩
      rw [halone, if_pos rfl, List.length_append, List.length_singleton]
      omega
    · refine ⟨xs.length, text, by simp, hfound, ?_⟩
      rw [halone, if_neg Bool.false_ne_true]
      omega

/-- A new inspector reports nothing on the line with the given number. -/
def Silent (settings : Settings) (path : Script) (lines : List Text) (number : Int) : Prop :=
  ∀ d ∈ ((new settings).inspect (FileReport.ofLines settings path lines)).2,
    d.location.line ≠ number

instance
    (settings : Settings)
    (path : Script)
    (lines : List Text)
    (number : Int) :
    Decidable (Silent settings path lines number) :=
  inferInstanceAs (Decidable (∀ d ∈ _, _))

/-- A clobbering line is not reported exactly when a comment covers it. -/
theorem silent_iff
    {settings : Settings}
    {path : Script}
    {xs ys : List Text}
    {text : Text}
    (hsite : ∃ clobber ∈ (FileReport.ofLines settings path (xs ++ text :: ys)).clobbers,
      clobber.line = xs.length) :
    Silent settings path (xs ++ text :: ys) (xs.length + 1) ↔
      (∃ line, xs.getLast? = some line ∧ Precedes settings.marker line) ∨
        Trails settings.marker text := by
  obtain ⟨clobber, hclobber, hline⟩ := hsite
  obtain ⟨routine, hroutine, hmem⟩ := List.mem_flatMap.mp hclobber
  let d := Diagnostic.ofClobber (new settings).severity
    (FileReport.ofLines settings path (xs ++ text :: ys)) routine clobber
  have hd : d ∈ Diagnostic.ofReport (new settings).severity
      (FileReport.ofLines settings path (xs ++ text :: ys)) :=
    List.mem_flatMap.mpr ⟨routine, hroutine, List.mem_map_of_mem hmem⟩
  have hplace : d.location.line = xs.length + 1 := congrArg (· + 1) hline
  constructor
  · intro hsilent
    by_contra hmarked
    have hkept := mt (covers_iff_marked rfl hplace settings text ys).mp hmarked
    refine hsilent d (List.mem_filter.mpr ⟨hd, ?_⟩) hplace
    rw [Bool.not_eq_true']
    exact Bool.eq_false_iff.mpr hkept
  · intro hmarked other hother hnumber
    obtain ⟨hreport, hkept⟩ := List.mem_filter.mp hother
    obtain ⟨routine, -, hmap⟩ := List.mem_flatMap.mp hreport
    obtain ⟨clobber, -, rfl⟩ := List.mem_map.mp hmap
    have hcovered := (covers_iff_marked rfl hnumber settings text ys).mpr hmarked
    rw [Bool.not_eq_true'] at hkept
    exact Bool.false_ne_true (hkept.symm.trans hcovered)

theorem silent_behind_iff
    {settings : Settings}
    {path : Script}
    {xs ys : List Text}
    {text : Text}
    (hblank : settings.marker.allBlank = false)
    (hmarker : '\n' ∉ settings.marker)
    (hsite : ∃ clobber ∈ (FileReport.ofLines settings path (xs ++ text :: ys)).clobbers,
      clobber.line = xs.length)
    (hcode : ';' ∉ text) :
    Silent settings path (xs ++ behind settings.marker text :: ys) (xs.length + 1) ↔
      Delimited settings.marker ∨ Silent settings path (xs ++ text :: ys) (xs.length + 1) := by
  obtain ⟨statement, hread, hoperands⟩ := FileReport.exists_operands_of_clobber hsite
  have halike : ReadAlike (xs ++ behind settings.marker text :: ys) (xs ++ text :: ys) := by
    simp [ReadAlike, Line.ofText_behind hread hoperands hcode hmarker]
  have hstill := hsite
  rw [FileReport.clobbers, ← FileReport.routines_of_readAlike halike] at hstill
  rw [silent_iff hstill, silent_iff hsite, trails_behind_iff hblank hread hcode]
  simp only [not_trails hcode, or_false]
  exact or_comm

theorem silent_insert_iff
    {settings : Settings}
    {path : Script}
    {xs ys : List Text}
    {text : Text}
    (hblank : settings.marker.allBlank = false)
    (hmarker : '\n' ∉ settings.marker)
    (hsite : ∃ clobber ∈ (FileReport.ofLines settings path (xs ++ text :: ys)).clobbers,
      clobber.line = xs.length)
    (hcode : ';' ∉ text) :
    Silent settings path (xs ++ ofMarker settings.marker :: text :: ys) (xs.length + 2) ↔
      Delimited settings.marker := by
  have hcomment : Line.ofText (ofMarker settings.marker) = .comment :=
    Line.ofText_comment (by simp [hmarker])
  have hmoved :=
    FileReport.exists_clobber_insert (Mark.ofText_of_comment hcomment)
      (Usage.ofLine_of_comment hcomment) hsite
  have hsplit : xs ++ ofMarker settings.marker :: text :: ys =
      (xs ++ [ofMarker settings.marker]) ++ text :: ys := by simp
  have hlength : (xs.length : Int) + 1 = (xs ++ [ofMarker settings.marker]).length := by simp
  have hnumber : (xs.length : Int) + 2 = xs.length + 1 + 1 := by omega
  rw [hsplit, hlength] at hmoved
  rw [hsplit, hnumber, hlength, silent_iff hmoved]
  simp [not_trails hcode, precedes_ofMarker_iff hblank]

/-- **Markers.**  Let a line without a comment be reported in a file, under settings that are in
order and a marker that holds no line feed.  The marker in a comment behind the line makes it silent
exactly when the marker starts and ends with a word character, or when the line was silent before.
The marker in a comment alone on the line before makes it silent exactly when the marker starts and
ends with a word character. -/
theorem silent_iff_delimited
    (settings : Settings)
    (path : Script)
    (xs : List Text)
    (text : Text)
    (ys : List Text)
    (hvalid : settings.problems = [])
    (hmarker : '\n' ∉ settings.marker)
    (hsite : ∃ clobber ∈ (FileReport.ofLines settings path (xs ++ text :: ys)).clobbers,
      clobber.line = xs.length)
    (hcode : ';' ∉ text) :
    (Silent settings path (xs ++ behind settings.marker text :: ys) (xs.length + 1) ↔
        Delimited settings.marker ∨ Silent settings path (xs ++ text :: ys) (xs.length + 1)) ∧
      (Silent settings path (xs ++ ofMarker settings.marker :: text :: ys) (xs.length + 2) ↔
        Delimited settings.marker) := by
  have hblank : settings.marker.allBlank = false := by
    simpa using (List.append_eq_nil_iff.mp hvalid).2
  exact ⟨silent_behind_iff hblank hmarker hsite hcode, silent_insert_iff hblank hmarker hsite hcode⟩

/-- A hyphen inside the marker and blanks at the end of the line do no harm. -/
theorem silent_iff_delimited_hyphen :
    let settings : Settings := { marker := "no-qa".toList }
    let text := "\tmove.l d0,d2 \t".toList
    ¬ Silent settings "input" ["F:".toList, text, " rts".toList] 2 ∧
      Silent settings "input" ["F:".toList, behind settings.marker text, " rts".toList] 2 ∧
      Silent settings "input" ["F:".toList, ofMarker settings.marker, text, " rts".toList] 3 := by
  intro settings text
  have hdelimited : Delimited settings.marker := by decide
  obtain ⟨hbehind, hbefore⟩ :=
    silent_iff_delimited settings "input" ["F:".toList] text [" rts".toList] (by decide) (by decide)
      ⟨⟨1, .d 2⟩, by decide, rfl⟩ (by decide)
  exact ⟨by decide, hbehind.mpr (Or.inl hdelimited), hbefore.mpr hdelimited⟩

/-- No comment is recognised under a marker that starts with an at sign, which the settings admit. -/
theorem silent_fails_at_sign :
    let settings : Settings := { marker := "@noqa".toList }
    let text := " clr.l d2".toList
    settings.problems = [] ∧
      ¬ Silent settings "a.s" ["F:".toList, behind settings.marker text, " rts".toList] 2 ∧
      ¬ Silent settings "a.s" ["F:".toList, ofMarker settings.marker, text, " rts".toList] 3 := by
  decide

end Inspector
end CalleeSaved
