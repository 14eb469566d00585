import CalleeSaved.Disk.Basic
import CalleeSaved.Proofs.CommandLine.Writing

/-!
# The diagnostics of a check

A check reads all its files, and one inspector looks at them in turn.  This module shows that the
files do not bear on each other.

**Collection.**  `collected?` gives the diagnostics that a check collects before it writes anything;
there are none to give when a file cannot be read or an option is void.  `check_of_collected?`:
they are what the check writes and what its exit code tells.

**Files.**  `judge_cases`: the diagnostics of files stand one after the other.

**Result.**  `inspect_history_free`: earlier calls on an inspector leave no trace in its answers, and
a check of several files collects what the checks of the files collect.
-/

namespace CalleeSaved

open Partial

/-- The check of one file with the same options. -/
def CheckOptions.only (options : CheckOptions) (path : Script) : CheckOptions :=
  { options with job := { options.job with files := [path] } }

namespace Run

section Options

theorem fails_textOf_iff
    {error : RunError}
    {value : SwitchValue String} :
    Fails (textOf error value) ↔ value = .void := by
  cases value <;> simp [textOf]

/-- Only void options keep analyses from being judged. -/
theorem fails_judge_iff
    {options : CheckOptions}
    {reports : List FileReport} :
    Fails (judge options reports) ↔ options.severity = .void ∨ .void ∈ options.suppress := by
  rw [← fails_textOf_iff]
  refine fails_bind_iff fun severity _ => ?_
  rw [fails_bind_pure_iff, fails_mapM_iff]
  simp [fails_textOf_iff]

/-- Either an option is void, or the diagnostics of analyses stand one after the other. -/
theorem judge_cases
    (options : CheckOptions) :
    (∃ error, ∀ reports, judge options reports = .error error) ∨
      ∃ one : FileReport → List Diagnostic,
        ∀ reports, judge options reports = .ok (reports.flatMap one) := by
  cases hseverity : textOf .voidSeverity options.severity with
  | error error =>
      exact Or.inl ⟨error, fun reports => by rw [judge, hseverity]; rfl⟩
  | ok severity =>
      cases hsuppress : options.suppress.mapM (textOf .voidSuppression) with
      | error error =>
          exact Or.inl ⟨error, fun reports => by rw [judge, hseverity, hsuppress]; rfl⟩
      | ok ids =>
          refine Or.inr ⟨fun report =>
            ((Inspector.fresh { jobSettings options.job with severity } ids).inspect report).2,
            fun reports => ?_⟩
          rw [judge, hseverity, hsuppress, ← diagnostics_eq_inspect]
          rfl

end Options

variable {σ : Type} [FileSystem σ]

section Collection

/-- The diagnostics that a check collects, unless it ends before. -/
def collected? (disk : σ) (options : CheckOptions) : Option (List Diagnostic) :=
  (gather disk (jobSettings options.job) {} options.job.files).reports.toOption.bind fun reports =>
    (judge options reports).toOption

theorem collected?_eq_some_iff
    {disk : σ}
    {options : CheckOptions}
    {found : List Diagnostic} :
    collected? disk options = some found ↔ ∃ reports,
      options.job.files.mapM (FileSystem.report disk (jobSettings options.job)) = .ok reports ∧
        judge options reports = .ok found := by
  simp only [collected?, reports_gather, Option.bind_eq_some_iff, toOption_eq_some_iff]

/-- A check of several files collects what the checks of the files collect, in the order of the
files. -/
theorem collected?_eq_flatten
    (disk : σ)
    {options : CheckOptions}
    (hfiles : options.job.files ≠ []) :
    collected? disk options =
      (options.job.files.mapM fun path => collected? disk (options.only path)).map
        List.flatten := by
  let read (path : Script) := (FileSystem.report disk (jobSettings options.job) path).toOption
  have hone (path : Script) :
      collected? disk (options.only path) =
        (read path).bind fun report => (judge options [report]).toOption := by
    rw [collected?, reports_gather, toOption_mapM]
    change ([path].mapM read).bind (fun reports => (judge options reports).toOption) = _
    cases hreport : read path <;> simp [hreport]
  simp only [hone]
  rw [collected?, reports_gather, toOption_mapM]
  change (options.job.files.mapM read).bind _ = _
  rcases judge_cases options with ⟨error, herror⟩ | ⟨one, hjudge⟩
  · obtain ⟨path, rest, hcons⟩ := List.exists_cons_of_ne_nil hfiles
    simp [herror, hcons, List.mapM_cons, Except.toOption]
  · have hfound (reports : List FileReport) :
        (judge options reports).toOption = some (reports.flatMap one) :=
      toOption_eq_some_iff.mpr (hjudge reports)
    simp only [hfound, List.flatMap_singleton]
    have hflat := mapM_map_flatten read one options.job.files
    simpa only [Option.map_eq_bind, Function.comp_def] using hflat.symm

/-- A check collects diagnostics exactly when every file can be read and no option is void. -/
theorem isSome_collected?_iff
    {disk : σ}
    {options : CheckOptions} :
    (collected? disk options).isSome = true ↔
      (∀ path ∈ options.job.files, ∃ report,
        FileSystem.report disk (jobSettings options.job) path = .ok report) ∧
      options.severity ≠ .void ∧ ∀ id ∈ options.suppress, id ≠ .void := by
  simp only [Option.isSome_iff_exists, collected?_eq_some_iff]
  have hread :
      (∀ path ∈ options.job.files, ∃ report,
        FileSystem.report disk (jobSettings options.job) path = .ok report) ↔
      ∃ reports,
        options.job.files.mapM (FileSystem.report disk (jobSettings options.job)) = .ok reports := by
    rw [← not_fails_iff, fails_mapM_iff]
    simp [← not_fails_iff]
  have hjudge (reports : List FileReport) :
      (∃ found, judge options reports = .ok found) ↔
        options.severity ≠ .void ∧ ∀ id ∈ options.suppress, id ≠ .void := by
    rw [← not_fails_iff, fails_judge_iff, not_or, ← List.forall_mem_ne']
  rw [hread]
  constructor
  · rintro ⟨found, reports, hreports, hfound⟩
    exact ⟨⟨reports, hreports⟩, (hjudge reports).mp ⟨found, hfound⟩⟩
  · rintro ⟨⟨reports, hreports⟩, hoptions⟩
    obtain ⟨found, hfound⟩ := (hjudge reports).mpr hoptions
    exact ⟨found, reports, hreports, hfound⟩

end Collection

section Output

variable {host : Host} {disk : σ}

theorem stdout_putAll
    {progress : Progress σ}
    {texts : List Script}
    (h : (putAll host .stdout progress (texts.map .ok)).2 = none) :
    (putAll host .stdout progress (texts.map .ok)).1.stdout = progress.stdout ++ texts.flatten := by
  induction texts generalizing progress with
  | nil =>
      simp [putAll]
  | cons text rest ih =>
      simp only [List.map_cons, putAll, put] at h ⊢
      cases hfailure : host.stdout.failure? progress.stdout text with
      | some error =>
          simp [hfailure] at h
      | none =>
          simp only [hfailure] at h ⊢
          rw [ih h, List.flatten_cons, List.append_assoc]

/-- The exit code of a check tells whether it collects a diagnostic, and in a format for other
programs the check writes what it collects. -/
theorem check_of_collected?
    {options : CheckOptions}
    {found : List Diagnostic}
    (hfound : collected? disk options = some found)
    (hwrite : Writable host disk (.check options)) :
    (check host disk options).ending = .ok (codeOf found.isEmpty) ∧
      (options.format ≠ .text → toStdout options.job.output = true →
        ∃ texts : List Script, exportPieces host.limits options.format found = texts.map .ok ∧
          (check host disk options).stdout = texts.flatten) := by
  obtain ⟨reports, hreports, hjudge⟩ := collected?_eq_some_iff.mp hfound
  refine ⟨hwrite.ending_check hreports hjudge, fun hformat hstdout => ?_⟩
  have hready := ready_of_mem_exportPieces (reports_judge hwrite.held hreports hjudge) options.format
  obtain ⟨texts, htexts⟩ := exists_map_ok fun piece hpiece => (hready piece hpiece).not_fails
  obtain ⟨made, sink, log, hsink, hwritten, hcheck⟩ := hwrite.check_eq hreports hjudge
  rw [makeSink_stdout hstdout] at hsink
  obtain ⟨rfl, ⟨⟩⟩ := Prod.mk.inj hsink
  refine ⟨texts, htexts, ?_⟩
  rw [hcheck]
  unfold writeCheck at hwritten ⊢
  split at hwritten
  · next htext =>
      exact absurd htext hformat
  · simp only [htexts] at hwritten ⊢
    simpa [finished] using stdout_putAll hwritten

end Output

/-- **Independence.**  Each look at a file among any calls on one inspector gives what a new inspector
gives, with the identifiers that are suppressed so far.  So a check of several files collects what
the checks of the files collect, in the order of the files; it collects something exactly when every
file can be read and no option is void.  That is what the exit code of a check that can write its
output tells, and in a format for other programs it is what the check writes.  On a machine that
holds the lines of the files, the check can write to every output that accepts it. -/
theorem inspect_history_free
    (settings : Settings)
    (disk : σ)
    (options : CheckOptions) :
    (∀ calls : List Inspector.Call,
      (Inspector.new settings).answers calls = Inspector.freshAnswers settings [] calls) ∧
    (options.job.files ≠ [] →
      collected? disk options =
        (options.job.files.mapM fun path => collected? disk (options.only path)).map
          List.flatten) ∧
    ((collected? disk options).isSome = true ↔
      (∀ path ∈ options.job.files, ∃ report,
        FileSystem.report disk (jobSettings options.job) path = .ok report) ∧
      options.severity ≠ .void ∧ ∀ id ∈ options.suppress, id ≠ .void) ∧
    ∀ host found, collected? disk options = some found →
      (Held host.limits disk options.job.files → Accepts host disk options.job →
        Writable host disk (.check options)) ∧
      (Writable host disk (.check options) →
        (check host disk options).ending = .ok (codeOf found.isEmpty) ∧
          (options.format ≠ .text → toStdout options.job.output = true →
            ∃ texts : List Script, exportPieces host.limits options.format found = texts.map .ok ∧
              (check host disk options).stdout = texts.flatten)) := by
  refine ⟨Inspector.answers_eq_freshAnswers settings, collected?_eq_flatten disk,
    isSome_collected?_iff, fun host found hfound => ⟨fun hheld haccepts => ?_, ?_⟩⟩
  · obtain ⟨reports, hreports, -⟩ := collected?_eq_some_iff.mp hfound
    exact haccepts.writable hreports hheld
  · exact check_of_collected? hfound

/-- A comment that is gone at the second look at a file does not cover its line any more, and a check
of two files, one of them twice, reports the same lines as three checks. -/
theorem inspect_history_free_recheck :
    let commented := ["F:".toList, " clr.l d2 ; regtrack-suppress".toList, " rts".toList]
    let edited := ["F:".toList, " clr.l d2".toList, " rts".toList]
    let calls : List Inspector.Call :=
      [.inspect (.ofLines {} "f.s" commented), .suppress "other",
        .inspect (.ofLines {} "f.s" edited)]
    let disk : Disk :=
      ⟨["w"], [(["w", "f.s"], .file (Script.bytes "F:\n clr.l d2\n rts")), (["w", "g.s"], .file [])]⟩
    let options : CheckOptions := { job := { files := ["f.s", "g.s", "f.s"] }, format := .gcc }
    let host : Host :=
      ⟨[], ⟨80, 80, some 4⟩, fun _ _ text => text, ⟨false, fun _ _ => none⟩, fun _ => none⟩
    ((Inspector.new {}).answers calls).map (·.map Diagnostic.register) = [[], ["D2"]] ∧
      options.job.files ≠ [] ∧
      (collected? disk options).isSome = true ∧
      collected? disk options =
        (options.job.files.mapM fun path => collected? disk (options.only path)).map
          List.flatten ∧
      Writable host disk (.check options) ∧ (check host disk options).ending = .ok 1 := by
  intro commented edited calls disk options host
  have hfiles : options.job.files ≠ [] := by simp [options]
  obtain ⟨hcalls, hcollected, hsome, hcheck⟩ := inspect_history_free {} disk options
  have hread : (collected? disk options).isSome = true := by
    refine hsome.mpr ⟨?_, by decide, by decide⟩
    intro path hpath
    simp only [options, List.mem_cons, List.not_mem_nil, or_false] at hpath
    rcases hpath with rfl | rfl | rfl
    · exact ⟨_, rfl⟩
    · exact ⟨_, rfl⟩
    · exact ⟨_, rfl⟩
  obtain ⟨found, hfound⟩ := Option.isSome_iff_exists.mp hread
  obtain ⟨haccepted, hending⟩ := hcheck host found hfound
  have haccepts : Accepts host disk options.job :=
    ⟨⟨disk, .stdout, rfl, fun _ _ _ => rfl⟩, fun path hpath => by cases hpath⟩
  have hwrite : Writable host disk (.check options) := haccepted (by decide) haccepts
  refine ⟨?_, hfiles, hread, hcollected hfiles, hwrite, ?_⟩
  · rw [hcalls]
    decide
  · rw [(hending hwrite).1]
    have hempty : (collected? disk options).map List.isEmpty = some false := by decide
    rw [hfound] at hempty
    rw [Option.some.inj hempty]
    rfl

end Run
end CalleeSaved
