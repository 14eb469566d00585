import CalleeSaved.Proofs.Diagnostic.Suppressions
import CalleeSaved.Proofs.Routine.Readings
import Mathlib.Data.List.Forall2

/-!
# Line ends

A text may end its lines with a carriage return before each line feed.  The carriage return stays at
the end of the line, where no part of the analysis feels it: it is a blank to the readers of
statements and identifiers, no part of a word to the search for a marker, and no part of a column.

**Lines.**  `lines_withReturns`: the lines of the text, some with a carriage return behind them.

**Comments.**  `find?_append_return`: the search for a marker leaves the carriage return behind what
it found.  `ids_append_return` and `standsAlone_append_return`: it changes neither the identifiers
nor the place of the comment.

**Result.**  `inspect_withReturns`.
-/

namespace CalleeSaved

open Text

namespace Text

/-- The text with a carriage return before every line feed. -/
def withReturns (text : Text) : Text :=
  text.flatMap fun c => if c = '\n' then ['\r', '\n'] else [c]

/-- The other line is the line, or the line with a carriage return behind it. -/
def Returned (line other : Text) : Prop :=
  other = line ∨ other = line ++ ['\r']

theorem Returned.cons
    {line other : Text}
    (h : Returned line other)
    (c : Char) :
    Returned (c :: line) (c :: other) := by
  rcases h with rfl | rfl
  · exact Or.inl rfl
  · exact Or.inr rfl

theorem lines_cons_of_ne
    {c : Char}
    (hc : c ≠ '\n')
    (text : Text) :
    lines (c :: text) = (lines text).modifyHead (List.cons c) := by
  rw [lines, List.splitOn_cons_eq_if_modifyHead, if_neg (by simpa using hc)]
  rfl

theorem lines_newline_cons
    (text : Text) :
    lines ('\n' :: text) = [] :: lines text := by
  rw [lines, List.splitOn_cons_eq_if_modifyHead, if_pos (beq_self_eq_true _)]
  rfl

theorem Returned.modifyHead
    {lines others : List Text}
    (h : List.Forall₂ Returned lines others)
    (c : Char) :
    List.Forall₂ Returned (lines.modifyHead (List.cons c)) (others.modifyHead (List.cons c)) := by
  cases h with
  | nil =>
      exact .nil
  | cons hhead htail =>
      exact .cons (hhead.cons c) htail

/-- Every line is the line of the text with at most a carriage return behind it. -/
theorem lines_withReturns
    (text : Text) :
    List.Forall₂ Returned text.lines text.withReturns.lines := by
  induction text with
  | nil =>
      exact .cons (Or.inl rfl) .nil
  | cons c rest ih =>
      by_cases hc : c = '\n'
      · subst hc
        have hreturn : withReturns ('\n' :: rest) = '\r' :: '\n' :: withReturns rest := rfl
        rw [hreturn, lines_newline_cons, lines_cons_of_ne (by decide), lines_newline_cons]
        exact .cons (Or.inr rfl) ih
      · have hkeep : withReturns (c :: rest) = c :: withReturns rest := by
          simp [withReturns, hc]
        rw [hkeep, lines_cons_of_ne hc, lines_cons_of_ne hc]
        exact Returned.modifyHead ih c

/-- What does not feel a carriage return behind a line is the same for every line. -/
theorem map_eq_of_returned
    {α : Type}
    {f : Text → α}
    {lines others : List Text}
    (h : List.Forall₂ Returned lines others)
    (hf : ∀ line, f (line ++ ['\r']) = f line) :
    others.map f = lines.map f := by
  induction h with
  | nil =>
      rfl
  | cons hhead htail ih =>
      rw [List.map_cons, List.map_cons, ih]
      rcases hhead with rfl | rfl
      · rfl
      · rw [hf]

theorem trimEndWhile_append_return
    (line : Text) :
    trimEndWhile (· == '\r') (line ++ ['\r']) = trimEndWhile (· == '\r') line := by
  simp [trimEndWhile]

end Text

theorem Line.ofText_append_return
    (line : Text) :
    ofText (line ++ ['\r']) = ofText line := by
  have hblank : Within isBlank ['\r'] := by simp [Within, isBlank]
  rw [ofText, ofText, trim_append_blanks line hblank]

namespace SuppressionComment

theorem endsWord_head?_append_return
    (text : Text) :
    endsWord (text ++ ['\r']).head? = endsWord text.head? := by
  cases text with
  | nil =>
      decide
  | cons c rest =>
      rfl

theorem wordBoundary_return : wordBoundary (some '\r') none = false := by
  decide

/-- A marker that takes the carriage return in is not recognised, because no word ends there. -/
theorem afterMarker?_append_return
    (marker : Text)
    (before : Option Char)
    (text : Text) :
    afterMarker? marker before (text ++ ['\r']) =
      (afterMarker? marker before text).map (· ++ ['\r']) := by
  by_cases hmarker : marker <+: text
  · obtain ⟨rest, rfl⟩ := hmarker
    have hstart := endsWord_head?_append_return (marker ++ rest)
    have hstop := endsWord_head?_append_return rest
    have hprefix : marker.isPrefixOf (marker ++ rest ++ ['\r']) = true := by
      rw [List.isPrefixOf_iff_prefix, List.append_assoc]
      exact List.prefix_append marker _
    have hrest : (marker ++ rest ++ ['\r']).drop marker.length = rest ++ ['\r'] := by
      rw [List.append_assoc, List.drop_left]
    simp only [afterMarker?, wordBoundary, hrest, hprefix, hstart, hstop, List.drop_left,
      List.isPrefixOf_iff_prefix.mpr (List.prefix_append marker rest)]
    split <;> rfl
  · have hnone : afterMarker? marker before text = none :=
      Option.eq_none_iff_forall_ne_some.mpr fun _ hfind => hmarker (isPrefix_of_afterMarker? hfind)
    rw [hnone, Option.map_none]
    refine Option.eq_none_iff_forall_ne_some.mpr fun _ hfind => ?_
    rcases List.prefix_concat_iff.mp (isPrefix_of_afterMarker? hfind) with rfl | hshort
    · simp [afterMarker?, wordBoundary_return] at hfind
    · exact hmarker hshort

theorem inComment?_append_return
    (marker : Text)
    (before : Option Char)
    (text : Text) :
    inComment? marker before (text ++ ['\r']) =
      (inComment? marker before text).map (· ++ ['\r']) := by
  induction text generalizing before with
  | nil =>
      have hnone : afterMarker? marker (some '\r') [] = none := by
        simp [afterMarker?, wordBoundary_return]
      have hreturn := afterMarker?_append_return marker before []
      rw [List.nil_append] at hreturn ⊢
      rw [inComment?, inComment?, inComment?, hreturn, hnone]
      cases afterMarker? marker before [] <;> rfl
  | cons c rest ih =>
      rw [List.cons_append, inComment?, inComment?, ih, ← List.cons_append,
        afterMarker?_append_return]
      cases afterMarker? marker before (c :: rest) with
      | none =>
          simp only [Option.map_none]
          split <;> rfl
      | some after =>
          rfl

theorem find?_append_return
    (marker text : Text) :
    find? marker (text ++ ['\r']) = (find? marker text).map (· ++ ['\r']) := by
  induction text with
  | nil =>
      rfl
  | cons c rest ih =>
      rw [List.cons_append, find?, find?, ih, inComment?_append_return]
      split
      · cases inComment? marker (some c) rest <;> rfl
      · rfl

theorem ids_append_return
    (after : Text) :
    ids (after ++ ['\r']) = ids after := by
  have hseparates : separates '\r' = true := by decide
  rw [ids, ids, List.takeWhile_append]
  split
  · next hall =>
      have hself : after.takeWhile inList = after :=
        (List.takeWhile_prefix inList).eq_of_length hall
      have hlist : ['\r'].takeWhile inList = ['\r'] := by decide
      rw [hself, hlist, List.splitOnP_append_cons after [] hseparates]
      simp
  · rfl

theorem knownIds_append_return
    (known : Option (List String))
    (after : Text) :
    knownIds known (after ++ ['\r']) = knownIds known after := by
  simp only [knownIds, ids_append_return]

theorem standsAlone_append_return
    (line : Text) :
    standsAlone (line ++ ['\r']) = standsAlone line := by
  rw [standsAlone, standsAlone, trimStart, trimStart, List.dropWhile_append]
  split
  · next hblank =>
      have hnil : line.dropWhile isBlank = [] := by simpa using hblank
      rw [hnil]
      decide
  · next hcode =>
      rw [List.head?_append_of_ne_nil _ (by simpa using hcode)]

end SuppressionComment

namespace Suppression

theorem ofLine?_append_return
    (marker : Text)
    (known : Option (List String))
    (file : Script)
    (number : Int)
    (line : Text) :
    ofLine? marker known file number (line ++ ['\r']) = ofLine? marker known file number line := by
  rw [ofLine?, ofLine?, SuppressionComment.find?_append_return,
    SuppressionComment.standsAlone_append_return]
  cases SuppressionComment.find? marker line with
  | none =>
      rfl
  | some after =>
      simp only [Option.map_some, SuppressionComment.knownIds_append_return]

theorem ofLines_of_returned
    {lines others : List Text}
    (h : List.Forall₂ Returned lines others)
    (marker : Text)
    (known : Option (List String))
    (file : Script)
    (number : Int) :
    ofLines marker known file number others = ofLines marker known file number lines := by
  induction h generalizing number with
  | nil =>
      rfl
  | cons hhead htail ih =>
      rw [ofLines, ofLines, ih]
      rcases hhead with rfl | rfl
      · rfl
      · rw [ofLine?_append_return]

end Suppression

namespace Diagnostic

/-- The columns of a diagnostic leave the carriage return out. -/
theorem ofClobber_of_returned
    {file other : FileReport}
    (hpath : other.path = file.path)
    (hlines : List.Forall₂ Returned file.lines other.lines)
    (severity : Severity)
    (routine : RoutineReport)
    (clobber : Clobber) :
    ofClobber severity other routine clobber = ofClobber severity file routine clobber := by
  have hmap := map_eq_of_returned hlines trimEndWhile_append_return
  have htext (lines : List Text) :
      trimEndWhile (· == '\r') (lines[clobber.line.toNat]?.getD []) =
        (lines.map (trimEndWhile (· == '\r')))[clobber.line.toNat]?.getD [] := by
    rw [List.getElem?_map]
    cases lines[clobber.line.toNat]? <;> rfl
  simp only [ofClobber, htext, hmap, hpath]

theorem ofReport_of_returned
    {file other : FileReport}
    (hpath : other.path = file.path)
    (hlines : List.Forall₂ Returned file.lines other.lines)
    (hroutines : other.routines = file.routines)
    (severity : Severity) :
    ofReport severity other = ofReport severity file := by
  have hclobber (routine : RoutineReport) :
      ofClobber severity other routine = ofClobber severity file routine :=
    funext (ofClobber_of_returned hpath hlines severity routine)
  simp only [ofReport, hroutines, hclobber]

end Diagnostic

namespace Inspector

theorem inspect_of_returned
    {file other : FileReport}
    (hpath : other.path = file.path)
    (hlines : List.Forall₂ Returned file.lines other.lines)
    (hroutines : other.routines = file.routines)
    (inspector : Inspector) :
    inspector.inspect other = inspector.inspect file := by
  have hload :
      inspector.suppressions.load other.path other.lines =
        inspector.suppressions.load file.path file.lines := by
    simp only [Suppressions.load, Suppression.ofLines_of_returned hlines, hpath]
  have hreport := Diagnostic.ofReport_of_returned hpath hlines hroutines inspector.severity
  simp only [inspect, hload, hreport]

/-- **Line ends.**  A text has the same routines, with the same verdicts and the same clobbers, when
every line feed has a carriage return before it.  Every inspector finds the same in both texts, and
keeps the same suppressions from them. -/
theorem inspect_withReturns
    (settings : Settings)
    (path : Script)
    (text : Text) :
    (FileReport.ofText settings path text.withReturns).routines =
        (FileReport.ofText settings path text).routines ∧
      ∀ inspector : Inspector,
        inspector.inspect (FileReport.ofText settings path text.withReturns) =
          inspector.inspect (FileReport.ofText settings path text) := by
  have hlines := lines_withReturns text
  have halike : ReadAlike text.withReturns.lines text.lines :=
    map_eq_of_returned hlines Line.ofText_append_return
  have hroutines := FileReport.routines_of_readAlike halike settings path
  exact ⟨hroutines, inspect_of_returned rfl hlines hroutines⟩

end Inspector
end CalleeSaved
