import CalleeSaved.Proofs.Diagnostic.CommentGrammar
import Mathlib.Data.List.Induction

/-!
# Calls on one set of suppressions

The suppressions in force come from a sequence of calls: comments of files are loaded, and
identifiers suppressed everywhere, in any order and any number of times.

**Step.**  `latest_append_iff`: a load is the latest one of its file, and no other call touches the
latest load of that file.  `mem_inline_load_iff` says what becomes of the entries that are kept.

**Run.**  `mem_everywhere_afterAll_iff`: every identifier stays suppressed.
`mem_inline_afterAll_iff`: the entries of a file are those of its latest load.

**Result.**  `covers_exact`.
-/

namespace CalleeSaved

open Text SuppressionComment

theorem Suppression.file_of_mem_ofLines
    {marker : Text}
    {known : Option (List String)}
    {file : Script}
    {number : Int}
    {lines : List Text}
    {entry : Suppression}
    (h : entry ∈ ofLines marker known file number lines) :
    entry.file = file := by
  obtain ⟨k, line, -, hline⟩ := mem_ofLines_iff.mp h
  exact file_of_ofLine? hline

namespace Suppressions

section Calls

/-- A call on the suppressions in force. -/
inductive Call
  | load (file : Script) (lines : List Text)
  | suppress (id : String)

/-- The suppressions after a call. -/
def after (suppressions : Suppressions) : Call → Suppressions
  | .load file lines => suppressions.load file lines
  | .suppress id => suppressions.addEverywhere id

/-- The suppressions after some calls. -/
def afterAll (suppressions : Suppressions) (calls : List Call) : Suppressions :=
  calls.foldl after suppressions

/-- Nothing is suppressed yet. -/
def new (marker : Text) (known : Option (List String)) : Suppressions :=
  { marker := marker, known := known }

/-- The lines are those of the latest load of the file. -/
def Latest (calls : List Call) (file : Script) (lines : List Text) : Prop :=
  ∃ before rest, calls = before ++ .load file lines :: rest ∧
    ∀ others, .load file others ∉ rest

theorem afterAll_append
    (suppressions : Suppressions)
    (calls : List Call)
    (call : Call) :
    suppressions.afterAll (calls ++ [call]) = (suppressions.afterAll calls).after call := by
  simp [afterAll]

end Calls

section Steps

theorem not_latest_nil
    (file : Script)
    (lines : List Text) :
    ¬ Latest [] file lines := by
  rintro ⟨before, rest, hcalls, -⟩
  simp at hcalls

/-- A call is the latest load of the file, or leaves the latest load as it is. -/
theorem latest_append_iff
    {calls : List Call}
    {call : Call}
    {file : Script}
    {lines : List Text} :
    Latest (calls ++ [call]) file lines ↔
      call = .load file lines ∨ (∀ others, call ≠ .load file others) ∧ Latest calls file lines := by
  constructor
  · rintro ⟨before, rest, hcalls, hrest⟩
    rcases List.eq_nil_or_concat rest with rfl | ⟨init, last, rfl⟩
    · exact Or.inl (List.singleton_inj.mp (List.append_inj' hcalls rfl).2)
    · rw [List.concat_eq_append, ← List.cons_append, ← List.append_assoc] at hcalls
      obtain ⟨rfl, hlast⟩ := List.append_inj' hcalls rfl
      obtain rfl : call = last := List.singleton_inj.mp hlast
      refine Or.inr ⟨fun others hcall => hrest others (by simp [hcall]), before, init, rfl, ?_⟩
      exact fun others hmem => hrest others (by simp [hmem])
  · rintro (rfl | ⟨hcall, before, rest, rfl, hrest⟩)
    · exact ⟨calls, [], rfl, by simp⟩
    · refine ⟨before, rest ++ [call], by simp, fun others hmem => ?_⟩
      rcases List.mem_append.mp hmem with hmem | hmem
      · exact hrest others hmem
      · exact hcall others (List.mem_singleton.mp hmem).symm

theorem mem_inline_load_iff
    {suppressions : Suppressions}
    {file : Script}
    {lines : List Text}
    {entry : Suppression} :
    entry ∈ (suppressions.load file lines).inline ↔
      entry.file ≠ file ∧ entry ∈ suppressions.inline ∨
        entry ∈ Suppression.ofLines suppressions.marker suppressions.known file 1 lines := by
  simp [load, List.mem_filter, and_comm]

end Steps

section Runs

/-- No call changes the marker or the known identifiers. -/
theorem marker_afterAll
    (suppressions : Suppressions)
    (calls : List Call) :
    (suppressions.afterAll calls).marker = suppressions.marker ∧
      (suppressions.afterAll calls).known = suppressions.known := by
  induction calls using List.reverseRecOn with
  | nil =>
      exact ⟨rfl, rfl⟩
  | append_singleton calls call ih =>
      rw [afterAll_append]
      cases call <;> exact ih

theorem mem_everywhere_afterAll_iff
    {marker : Text}
    {known : Option (List String)}
    {calls : List Call}
    {id : String} :
    id ∈ ((new marker known).afterAll calls).everywhere ↔ .suppress id ∈ calls := by
  induction calls using List.reverseRecOn with
  | nil =>
      simp [afterAll, new]
  | append_singleton calls call ih =>
      rw [afterAll_append]
      cases call with
      | load file lines =>
          simpa [after, load] using ih
      | suppress other =>
          simp [after, addEverywhere, ih]

/-- The entries of a file are those of its latest load. -/
theorem mem_inline_afterAll_iff
    {marker : Text}
    {known : Option (List String)}
    {calls : List Call}
    {entry : Suppression} :
    entry ∈ ((new marker known).afterAll calls).inline ↔
      ∃ lines, Latest calls entry.file lines ∧
        entry ∈ Suppression.ofLines marker known entry.file 1 lines := by
  induction calls using List.reverseRecOn with
  | nil =>
      simp [afterAll, new, not_latest_nil]
  | append_singleton calls call ih =>
      rw [afterAll_append]
      cases call with
      | suppress id =>
          have hlatest (lines : List Text) :
              Latest (calls ++ [.suppress id]) entry.file lines ↔
                Latest calls entry.file lines := by
            simp [latest_append_iff]
          simp only [hlatest, ← ih]
          rfl
      | load file lines =>
          obtain ⟨hmarker, hknown⟩ := marker_afterAll (new marker known) calls
          rw [after, mem_inline_load_iff, hmarker, hknown, ih]
          by_cases hfile : entry.file = file
          · subst hfile
            simp [latest_append_iff, new]
          · have hother : entry ∉ Suppression.ofLines marker known file 1 lines :=
              mt Suppression.file_of_mem_ofLines hfile
            have hcall (others : List Text) :
                Call.load file lines ≠ .load entry.file others := by simp [Ne.symm hfile]
            simp [latest_append_iff, hfile, hother, hcall, new]

/-- A load of another file does not matter to the latest load of a file. -/
theorem latest_insert_iff
    {before rest : List Call}
    {file other : Script}
    {lines others : List Text}
    (hfile : other ≠ file) :
    Latest (before ++ .load other others :: rest) file lines ↔
      Latest (before ++ rest) file lines := by
  induction rest using List.reverseRecOn with
  | nil =>
      simp [latest_append_iff, hfile]
  | append_singleton rest call ih =>
      rw [← List.cons_append, ← List.append_assoc, ← List.append_assoc, latest_append_iff, ih,
        latest_append_iff]

end Runs

section Cover

/-- The line has the given number, from one on. -/
def LineAt (lines : List Text) (number : Int) (line : Text) : Prop :=
  ∃ k : Nat, lines[k]? = some line ∧ number = k + 1

theorem covers_afterAll_iff
    {marker : Text}
    {known : Option (List String)}
    {calls : List Call}
    {diagnostic : Diagnostic} :
    ((new marker known).afterAll calls).covers diagnostic = true ↔
      .suppress diagnostic.id ∈ calls ∨ .suppress "*" ∈ calls ∨
        ∃ lines, Latest calls diagnostic.location.file lines ∧
          ∃ entry ∈ Suppression.ofLines marker known diagnostic.location.file 1 lines,
            entry.line = diagnostic.location.line ∧
              Suppression.lists entry.ids diagnostic.id = true := by
  rw [covers_iff, ← or_assoc]
  refine or_congr ?_ ⟨?_, ?_⟩
  · simp [Suppression.lists, mem_everywhere_afterAll_iff]
  · rintro ⟨entry, hentry, hfile, hcovers⟩
    obtain ⟨lines, hlatest, hmem⟩ := mem_inline_afterAll_iff.mp hentry
    rw [hfile] at hlatest hmem
    exact ⟨lines, hlatest, entry, hmem, hcovers⟩
  · rintro ⟨lines, hlatest, entry, hmem, hcovers⟩
    have hfile := Suppression.file_of_mem_ofLines hmem
    rw [← hfile] at hlatest hmem
    exact ⟨entry, mem_inline_afterAll_iff.mpr ⟨lines, hlatest, hmem⟩, hfile, hcovers⟩

/-- What the comments of a file suppress on a line: a comment behind the line itself counts, and one
alone on the line before it. -/
theorem exists_mem_ofLines_lists_iff
    {marker : Text}
    (hmarker : Delimited marker)
    {known : Option (List String)}
    {file : Script}
    {id : String}
    {lines : List Text}
    (hlines : ∀ line ∈ lines, '\n' ∉ line)
    {number : Int} :
    (∃ entry ∈ Suppression.ofLines marker known file 1 lines,
      entry.line = number ∧ Suppression.lists entry.ids id = true) ↔
      (∃ line, LineAt lines number line ∧ ¬ CommentOnly line ∧ Silences marker known line id) ∨
        ∃ line, LineAt lines (number - 1) line ∧ CommentOnly line ∧
          Silences marker known line id := by
  constructor
  · rintro ⟨entry, hmem, hcovers⟩
    obtain ⟨k, line, hk, hentry⟩ := Suppression.mem_ofLines_iff.mp hmem
    have hline := hlines line (List.mem_of_getElem? hk)
    obtain ⟨hsilences, ⟨honly, hnumber⟩ | ⟨honly, hnumber⟩⟩ :=
      (Suppression.exists_ofLine?_lists_iff hmarker hline).mp ⟨entry, hentry, hcovers⟩
    · exact Or.inl ⟨line, ⟨k, hk, by omega⟩, honly, hsilences⟩
    · exact Or.inr ⟨line, ⟨k, hk, by omega⟩, honly, hsilences⟩
  · intro h
    obtain ⟨k, line, hk, hsilences, htarget⟩ :
        ∃ (k : Nat) (line : Text), lines[k]? = some line ∧ Silences marker known line id ∧
          (¬ CommentOnly line ∧ number = 1 + k ∨ CommentOnly line ∧ number = 1 + k + 1) := by
      rcases h with ⟨line, ⟨k, hk, hnumber⟩, honly, hsilences⟩ |
        ⟨line, ⟨k, hk, hnumber⟩, honly, hsilences⟩
      · exact ⟨k, line, hk, hsilences, Or.inl ⟨honly, by omega⟩⟩
      · exact ⟨k, line, hk, hsilences, Or.inr ⟨honly, by omega⟩⟩
    have hline := hlines line (List.mem_of_getElem? hk)
    obtain ⟨entry, hentry, hcovers⟩ :=
      (Suppression.exists_ofLine?_lists_iff hmarker hline).mpr ⟨hsilences, htarget⟩
    exact ⟨entry, Suppression.mem_ofLines_iff.mpr ⟨k, line, hk, hentry⟩, hcovers⟩

end Cover

/-- **Suppressions in force.**  Let the marker start and end with a word character, and let some
calls load lines without line breaks and suppress identifiers everywhere.  A diagnostic is
suppressed exactly when its identifier or a star was suppressed everywhere, or when in the latest
load of its file its line is silenced by a comment behind it, or by a comment alone on the line
before it.  Loads of other files do not matter. -/
theorem covers_exact
    (marker : Text)
    (hmarker : Delimited marker)
    (known : Option (List String))
    (calls : List Call)
    (hlines : ∀ file lines, .load file lines ∈ calls → ∀ line ∈ lines, '\n' ∉ line)
    (diagnostic : Diagnostic) :
    let suppressions := (new marker known).afterAll calls
    let file := diagnostic.location.file
    let number := diagnostic.location.line
    (suppressions.covers diagnostic = true ↔
      .suppress diagnostic.id ∈ calls ∨ .suppress "*" ∈ calls ∨
        ∃ lines, Latest calls file lines ∧
          ((∃ line, LineAt lines number line ∧ ¬ CommentOnly line ∧
              Silences marker known line diagnostic.id) ∨
            ∃ line, LineAt lines (number - 1) line ∧ CommentOnly line ∧
              Silences marker known line diagnostic.id)) ∧
    ∀ before rest other lines, calls = before ++ .load other lines :: rest → other ≠ file →
      suppressions.covers diagnostic =
        ((new marker known).afterAll (before ++ rest)).covers diagnostic := by
  intro suppressions file number
  constructor
  · have hlatest {lines : List Text} (h : Latest calls file lines) :
        ∀ line ∈ lines, '\n' ∉ line := by
      obtain ⟨before, rest, rfl, -⟩ := h
      exact hlines file lines (by simp)
    rw [covers_afterAll_iff]
    refine or_congr_right (or_congr_right (exists_congr fun lines => and_congr_right fun h => ?_))
    exact exists_mem_ofLines_lists_iff hmarker (hlatest h)
  · rintro before rest other lines rfl hother
    have hlatest (others : List Text) :
        Latest (before ++ .load other lines :: rest) diagnostic.location.file others ↔
          Latest (before ++ rest) diagnostic.location.file others :=
      latest_insert_iff hother
    rw [Bool.eq_iff_iff, covers_afterAll_iff, covers_afterAll_iff]
    simp [hlatest]

/-- The comment behind a line is taken away, and one is put alone on the line before it, where a
longer word hides the marker at first.  The line of the other comment is covered no longer. -/
theorem covers_exact_reload :
    let marker := "noqa".toList
    let known := some ["unsafeRegister"]
    let old := ["clr.l d3 ; noqa".toList, "clr.l d2".toList]
    let edited := ["\t; noqas; noqa, please unsafeRegister".toList, "clr.l d2".toList]
    let calls := [Call.load "a.s" old, .suppress "style", .load "a.s" edited, .load "b.s" old]
    let finding (line : Int) : Diagnostic :=
      { id := "unsafeRegister", message := "", severity := .error, location := ⟨"a.s", line, 0⟩ }
    let suppressions := (new marker known).afterAll calls
    Delimited marker ∧ suppressions.covers (finding 1) = false ∧
      suppressions.covers (finding 2) = true ∧
      ∃ line, LineAt edited 1 line ∧ CommentOnly line ∧
        Silences marker known line "unsafeRegister" := by
  intro marker known old edited calls finding suppressions
  have hmarker : Delimited marker := by decide
  have hlines : ∀ file lines, Call.load file lines ∈ calls → ∀ line ∈ lines, '\n' ∉ line := by
    intro file lines hmem
    obtain rfl | rfl : lines = old ∨ lines = edited := by
      simp only [calls, List.mem_cons, Call.load.injEq, reduceCtorEq, List.not_mem_nil] at hmem
      tauto
    · decide
    · decide
  have hcovers : suppressions.covers (finding 2) = true := by decide
  refine ⟨hmarker, by decide, hcovers, ?_⟩
  rcases (covers_exact marker hmarker known calls hlines (finding 2)).1.mp hcovers with
    hid | hstar | ⟨lines, hlatest, hcomment⟩
  · simp [calls, finding] at hid
  · simp [calls] at hstar
  · obtain rfl : lines = edited := by
      change Latest (([Call.load "a.s" old, .suppress "style"] ++ [.load "a.s" edited]) ++
        [.load "b.s" old]) "a.s" lines at hlatest
      rw [latest_append_iff, latest_append_iff] at hlatest
      simpa [eq_comm] using hlatest
    rcases hcomment with ⟨line, ⟨k, hk, hnumber⟩, -, _, ⟨code, comment, _, rfl, -⟩, -⟩ | hbefore
    · have hline : (2 : Int) = k + 1 := hnumber
      obtain rfl : k = 1 := by omega
      have htext : "clr.l d2".toList = code ++ ';' :: comment := Option.some.inj hk
      have hsemicolon : ';' ∈ "clr.l d2".toList := by simp [htext]
      exact absurd hsemicolon (by decide)
    · exact hbefore

end Suppressions
end CalleeSaved
