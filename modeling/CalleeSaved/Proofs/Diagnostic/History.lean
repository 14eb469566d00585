import CalleeSaved.Proofs.Diagnostic.Suppressions

/-!
# Calls on one inspector

An inspector keeps the suppression comments of every file that it has looked at.  They never show in
a later answer: a look at a file first replaces what is kept for that file, and the diagnostics of
the file ask for nothing else.

**Calls.**  `answers` are the answers to a sequence of calls on one inspector, `freshAnswers` those
of new inspectors, one for each look at a file.

**Step.**  `inspect_forget`: what is kept for files plays no part in an answer.  `forget_inspect` and
`forget_suppress`: nothing else is kept from a look at a file.

**Run.**  `answers_eq_freshAnswers`, and `inspectAll_eq_flatMap` for the files of one run.
-/

namespace CalleeSaved

theorem Diagnostic.file_of_mem_ofReport
    {severity : Severity}
    {file : FileReport}
    {diagnostic : Diagnostic}
    (h : diagnostic ∈ ofReport severity file) :
    diagnostic.location.file = file.path := by
  obtain ⟨routine, -, hroutine⟩ := List.mem_flatMap.mp h
  obtain ⟨clobber, -, rfl⟩ := List.mem_map.mp hroutine
  rfl

namespace Suppressions

/-- What is loaded for a file does not depend on what was loaded before. -/
theorem idsAt_load
    (suppressions : Suppressions)
    (file : Script)
    (lines : List Text)
    (line : Int) :
    (suppressions.load file lines).idsAt file line =
      ({ suppressions with inline := [] }.load file lines).idsAt file line := by
  have hothers :
      (suppressions.inline.filter fun entry => entry.file != file).filter
        (fun entry => entry.file == file && entry.line == line) = [] := by
    rw [List.filter_eq_nil_iff]
    intro entry hentry
    have hfile : entry.file ≠ file := by simpa using (List.mem_filter.mp hentry).2
    simp [hfile]
  simp only [load, idsAt, List.filter_append, hothers, List.filter_nil, List.nil_append]

theorem covers_load
    (suppressions : Suppressions)
    (lines : List Text)
    (diagnostic : Diagnostic) :
    (suppressions.load diagnostic.location.file lines).covers diagnostic =
      ({ suppressions with inline := [] }.load diagnostic.location.file lines).covers
        diagnostic := by
  simp only [covers, idsAt_load]
  rfl

end Suppressions

namespace Inspector

section CallSequences

/-- A call on an inspector. -/
inductive Call
  | inspect (file : FileReport)
  | suppress (id : String)

/-- The answers of one inspector to the looks at files among some calls. -/
def answers (inspector : Inspector) : List Call → List (List Diagnostic)
  | [] => []
  | .inspect file :: rest =>
      let (inspector, found) := inspector.inspect file
      found :: inspector.answers rest
  | .suppress id :: rest => (inspector.suppress id).answers rest

/-- A new inspector with some identifiers suppressed in every file. -/
def fresh (settings : Settings) (ids : List String) : Inspector :=
  ids.foldl suppress (new settings)

/-- The answers when each look at a file has a new inspector of its own, with the identifiers that
are suppressed so far. -/
def freshAnswers (settings : Settings) (ids : List String) : List Call → List (List Diagnostic)
  | [] => []
  | .inspect file :: rest =>
      ((fresh settings ids).inspect file).2 :: freshAnswers settings ids rest
  | .suppress id :: rest => freshAnswers settings (ids ++ [id]) rest

end CallSequences

section Traces

/-- The inspector without the comments that it keeps. -/
def forget (inspector : Inspector) : Inspector :=
  { inspector with suppressions := { inspector.suppressions with inline := [] } }

theorem forget_inspect
    (inspector : Inspector)
    (file : FileReport) :
    (inspector.inspect file).1.forget = inspector.forget :=
  rfl

theorem forget_suppress
    (inspector : Inspector)
    (id : String) :
    (inspector.suppress id).forget = inspector.forget.suppress id :=
  rfl

theorem inspect_forget
    (inspector : Inspector)
    (file : FileReport) :
    (inspector.forget.inspect file).2 = (inspector.inspect file).2 := by
  simp only [inspect, Suppressions.keep]
  refine List.filter_congr fun diagnostic hdiagnostic => ?_
  rw [← Diagnostic.file_of_mem_ofReport hdiagnostic,
    Suppressions.covers_load inspector.suppressions]
  rfl

/-- Two inspectors that differ only in the comments that they keep answer alike. -/
theorem inspect_congr
    {first second : Inspector}
    (h : first.forget = second.forget)
    (file : FileReport) :
    (first.inspect file).2 = (second.inspect file).2 := by
  rw [← inspect_forget, h, inspect_forget]

/-- What a new inspector holds when some identifiers are suppressed. -/
theorem fresh_eq
    (settings : Settings)
    (ids : List String) :
    fresh settings ids =
      ⟨settings, { (new settings).suppressions with everywhere := ids }⟩ := by
  have hfold (inspector : Inspector) :
      ids.foldl suppress inspector =
        ⟨inspector.settings, { inspector.suppressions with
          everywhere := inspector.suppressions.everywhere ++ ids }⟩ := by
    induction ids generalizing inspector with
    | nil =>
        simp
    | cons id rest ih =>
        rw [List.foldl_cons, ih]
        simp [suppress, Suppressions.addEverywhere]
  exact hfold (new settings)

theorem forget_fresh
    (settings : Settings)
    (ids : List String) :
    (fresh settings ids).forget = fresh settings ids := by
  rw [fresh_eq]
  rfl

theorem fresh_append
    (settings : Settings)
    (ids : List String)
    (id : String) :
    fresh settings (ids ++ [id]) = (fresh settings ids).suppress id := by
  simp [fresh]

end Traces

section Runs

theorem answers_eq_of_forget
    {settings : Settings}
    {ids : List String}
    {inspector : Inspector}
    (h : inspector.forget = fresh settings ids)
    (calls : List Call) :
    inspector.answers calls = freshAnswers settings ids calls := by
  induction calls generalizing inspector ids with
  | nil =>
      rfl
  | cons call rest ih =>
      cases call with
      | inspect file =>
          have hanswer : (inspector.inspect file).2 = ((fresh settings ids).inspect file).2 :=
            inspect_congr (h.trans (forget_fresh settings ids).symm) file
          change (inspector.inspect file).2 :: (inspector.inspect file).1.answers rest = _
          rw [freshAnswers, hanswer, ih ((forget_inspect inspector file).trans h)]
      | suppress id =>
          refine ih ?_
          rw [forget_suppress, h, fresh_append]

theorem answers_eq_freshAnswers
    (settings : Settings)
    (calls : List Call) :
    (new settings).answers calls = freshAnswers settings [] calls := by
  have hnew : (new settings).forget = fresh settings [] := rfl
  exact answers_eq_of_forget hnew calls

/-- The diagnostics of several files are those of the files, one by one. -/
theorem inspectAll_eq_flatMap
    (inspector : Inspector)
    (files : List FileReport) :
    (inspector.inspectAll files).2 = files.flatMap fun file => (inspector.inspect file).2 := by
  induction files generalizing inspector with
  | nil =>
      rfl
  | cons file rest ih =>
      have hlater : (fun other => ((inspector.inspect file).1.inspect other).2) =
          fun other => (inspector.inspect other).2 :=
        funext (inspect_congr (forget_inspect inspector file))
      change (inspector.inspect file).2 ++ ((inspector.inspect file).1.inspectAll rest).2 = _
      rw [ih, hlater, List.flatMap_cons]

end Runs

end Inspector
end CalleeSaved
