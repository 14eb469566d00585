import CalleeSaved.Proofs.Clobber.Sites
import CalleeSaved.Proofs.CommandLine.Collection

/-!
# Exit codes

A check and a description of the same files look at their clobbers in different ways: the check
counts the diagnostics that are left when the suppressed ones are gone, the description asks for the
verdicts.  This module shows how far their exit codes agree.

**Diagnostics.**  `diagnostics_severity`: another severity shows in the diagnostics and nowhere
else.  `diagnostics_eq_nil`: clean files have no diagnostics.  `diagnostics_eq_nil_iff`: without a
marker and without a suppression all clobbers are reported.

**Endings.**  `ending_check`: a check that can write its output ends as its files, its mode and its
suppressions say.

**Result.**  `exit_codes_agree`.
-/

namespace CalleeSaved

open Partial

namespace Diagnostic

theorem ofReport_eq_nil_iff
    {severity : Severity}
    {file : FileReport} :
    ofReport severity file = [] ↔ file.clobbers = [] := by
  simp [ofReport, FileReport.clobbers]

/-- The diagnostic with another severity. -/
def withSeverity (severity : Severity) (diagnostic : Diagnostic) : Diagnostic :=
  { diagnostic with severity }

theorem ofReport_withSeverity
    (severity other : Severity)
    (file : FileReport) :
    ofReport other file = (ofReport severity file).map (withSeverity other) := by
  simp only [ofReport, List.map_flatMap, List.map_map]
  rfl

end Diagnostic

theorem Suppressions.keep_withSeverity
    (suppressions : Suppressions)
    (severity : Severity)
    (diagnostics : List Diagnostic) :
    suppressions.keep (diagnostics.map (Diagnostic.withSeverity severity)) =
      (suppressions.keep diagnostics).map (Diagnostic.withSeverity severity) := by
  rw [keep, List.filter_map]
  rfl

theorem Suppression.ofLines_eq_nil
    {marker : Text}
    {lines : List Text}
    (h : ∀ line ∈ lines, ¬ marker <:+: line)
    (known : Option (List String))
    (file : Script)
    (number : Int) :
    ofLines marker known file number lines = [] := by
  refine List.eq_nil_iff_forall_not_mem.mpr fun entry hentry => ?_
  obtain ⟨k, line, hline, hread⟩ := mem_ofLines_iff.mp hentry
  rw [ofLine?] at hread
  cases hfind : SuppressionComment.find? marker line with
  | none =>
      simp [hfind] at hread
  | some after =>
      exact h line (List.mem_of_getElem? hline) (SuppressionComment.isInfix_of_find? hfind)

namespace Inspector

theorem severity_fresh
    (settings : Settings)
    (ids : List String) :
    (fresh settings ids).severity = Severity.ofString settings.severity := by
  rw [fresh_eq, severity]

theorem suppressions_fresh
    (settings : Settings)
    (severity : String)
    (ids : List String) :
    (fresh { settings with severity } ids).suppressions = (fresh settings ids).suppressions := by
  rw [fresh_eq, fresh_eq]
  rfl

theorem inspect_subset
    (inspector : Inspector)
    (file : FileReport) :
    (inspector.inspect file).2 ⊆ Diagnostic.ofReport inspector.severity file :=
  List.filter_subset_self _

/-- Two inspectors that suppress the same find the same, each with its own severity. -/
theorem inspect_withSeverity
    {inspector other : Inspector}
    (h : other.suppressions = inspector.suppressions)
    (file : FileReport) :
    (other.inspect file).2 =
      (inspector.inspect file).2.map (Diagnostic.withSeverity other.severity) := by
  simp only [inspect, h]
  rw [Diagnostic.ofReport_withSeverity inspector.severity other.severity,
    Suppressions.keep_withSeverity]

/-- Without a marker in the file a new inspector reports every clobber. -/
theorem inspect_unmarked
    {settings : Settings}
    {file : FileReport}
    (h : ∀ line ∈ file.lines, ¬ settings.marker <:+: line) :
    ((new settings).inspect file).2 = Diagnostic.ofReport (new settings).severity file := by
  refine List.filter_eq_self.mpr fun diagnostic _ => ?_
  have hnone :
      ((new settings).suppressions.load file.path file.lines).inline = [] :=
    Suppression.ofLines_eq_nil h _ _ _
  rw [Bool.not_eq_true', ← Bool.not_eq_true, Suppressions.covers_iff, hnone]
  simp [Suppressions.load, new, Suppression.lists]

end Inspector

namespace Run

section Diagnostics

/-- Another severity shows in the diagnostics and nowhere else. -/
theorem diagnostics_severity
    (settings : Settings)
    (severity : String)
    (ids : List String)
    (reports : List FileReport) :
    diagnostics { settings with severity } ids reports =
      (diagnostics settings ids reports).map
        (Diagnostic.withSeverity (Severity.ofString severity)) := by
  rw [diagnostics_eq_inspect, diagnostics_eq_inspect, List.map_flatMap]
  refine List.flatMap_congr fun report _ => ?_
  rw [Inspector.inspect_withSeverity (Inspector.suppressions_fresh settings severity ids),
    Inspector.severity_fresh]

theorem diagnostics_eq_nil
    {reports : List FileReport}
    (h : ∀ report ∈ reports, report.clobbers = [])
    (settings : Settings)
    (ids : List String) :
    diagnostics settings ids reports = [] := by
  rw [diagnostics_eq_inspect, List.flatMap_eq_nil_iff]
  intro report hreport
  have hsubset := Inspector.inspect_subset (Inspector.fresh settings ids) report
  rw [Diagnostic.ofReport_eq_nil_iff.mpr (h report hreport)] at hsubset
  exact List.subset_nil.mp hsubset

/-- Without markers and suppressions all clobbers are reported. -/
theorem diagnostics_eq_nil_iff
    {settings : Settings}
    {reports : List FileReport}
    (h : ∀ report ∈ reports, ∀ line ∈ report.lines, ¬ settings.marker <:+: line) :
    diagnostics settings [] reports = [] ↔ ∀ report ∈ reports, report.clobbers = [] := by
  rw [diagnostics_eq_inspect, List.flatMap_eq_nil_iff]
  refine forall₂_congr fun report hreport => ?_
  change ((Inspector.new settings).inspect report).2 = [] ↔ _
  rw [Inspector.inspect_unmarked (h report hreport), Diagnostic.ofReport_eq_nil_iff]

end Diagnostics

variable {σ : Type} [FileSystem σ]

section Files

/-- No line of a file holds the marker. -/
def Unmarked (disk : σ) (marker : Text) (files : List Script) : Prop :=
  ∀ path ∈ files, ∀ text, FileSystem.readText disk path = .ok text →
    ∀ line ∈ text.lines, ¬ marker <:+: line

variable {disk : σ} {settings : Settings} {files : List Script} {reports : List FileReport}

theorem all_isClean_iff
    (h : files.mapM (FileSystem.report disk settings) = .ok reports) :
    reports.all FileReport.isClean = true ↔ ∀ report ∈ reports, report.clobbers = [] := by
  rw [List.all_eq_true]
  refine forall₂_congr fun report hreport => ?_
  obtain ⟨path, -, text, -, rfl⟩ := exists_text_of_mem_reports h report hreport
  exact FileReport.isClean_iff

/-- A diagnostic stands for a verdict that is not clean. -/
theorem all_isClean_eq_false
    {other : Settings}
    {ids : List String}
    (h : files.mapM (FileSystem.report disk settings) = .ok reports)
    (hfound : diagnostics other ids reports ≠ []) :
    reports.all FileReport.isClean = false := by
  rw [← Bool.not_eq_true, all_isClean_iff h]
  exact fun hclean => hfound (diagnostics_eq_nil hclean other ids)

/-- Without markers and suppressions the diagnostics tell what the verdicts tell. -/
theorem isEmpty_diagnostics
    (h : files.mapM (FileSystem.report disk settings) = .ok reports)
    (hmarker : Unmarked disk settings.marker files) :
    (diagnostics settings [] reports).isEmpty = reports.all FileReport.isClean := by
  have hlines : ∀ report ∈ reports, ∀ line ∈ report.lines, ¬ settings.marker <:+: line := by
    intro report hreport
    obtain ⟨path, hpath, text, htext, rfl⟩ := exists_text_of_mem_reports h report hreport
    exact hmarker path hpath text htext
  rw [Bool.eq_iff_iff, List.isEmpty_iff, all_isClean_iff h, diagnostics_eq_nil_iff hlines]

end Files

section Endings

variable {host : Host} {disk : σ} {options : CheckOptions} {reports : List FileReport}

/-- The suppressions decide what is found, and the severity what it is found to be. -/
theorem judge_of_severity
    {severity : String}
    (h : options.severity = .text severity)
    (reports : List FileReport) :
    judge options reports =
      (options.suppress.mapM (textOf .voidSuppression)).map fun ids =>
        (diagnostics (jobSettings options.job) ids reports).map
          (Diagnostic.withSeverity (Severity.ofString severity)) := by
  simp only [← diagnostics_severity]
  rw [judge, h]
  cases options.suppress.mapM (textOf .voidSuppression) <;> rfl

/-- How a check ends that has read its files and can write its output: the suppressions, the files and
the mode decide. -/
theorem ending_check
    (hwrite : Writable host disk (.check options))
    (hreports :
      options.job.files.mapM (FileSystem.report disk (jobSettings options.job)) = .ok reports)
    (hseverity : options.severity ≠ .void) :
    (check host disk options).ending =
      (options.suppress.mapM (textOf .voidSuppression)).map fun ids =>
        codeOf (diagnostics (jobSettings options.job) ids reports).isEmpty := by
  obtain ⟨severity, hvalue⟩ : ∃ severity, options.severity = .text severity := by
    cases hvalue : options.severity with
    | void =>
        exact absurd hvalue hseverity
    | text severity =>
        exact ⟨severity, rfl⟩
  have hjudge := judge_of_severity hvalue reports
  cases hsuppress : options.suppress.mapM (textOf .voidSuppression) with
  | error error =>
      rw [hsuppress] at hjudge
      simp only [check, reports_gather, hreports, hjudge]
      rfl
  | ok ids =>
      rw [hsuppress] at hjudge
      have hending := hwrite.ending_check hreports hjudge
      rwa [List.isEmpty_map] at hending

theorem codeOf_cases
    (clean : Bool) :
    codeOf clean = exitClean ∨ codeOf clean = exitClobbered := by
  cases clean with
  | true =>
      exact Or.inl rfl
  | false =>
      exact Or.inr rfl

end Endings

/-- **Exit codes.**  Let the files of a check be readable and its output writable.  If the check
ends with the code for a clobbered register, so does every description of the files that can write
its output.  If nothing is suppressed and no line holds the marker, the check and the description end
with the same code, which is one of the codes for clean and for clobbered.  And the check ends the
same way in every format, with every severity, with every choice of colour, with every output and on
every host, as long as the output can be written; it ends with a code unless a suppression is void.
On a machine that holds the lines of the files, all of them can write to every output that accepts
them. -/
theorem exit_codes_agree
    (host : Host)
    (disk : σ)
    (options : CheckOptions)
    (hread : Readable disk options.job.files)
    (hwrite : Writable host disk (.check options))
    (hseverity : options.severity ≠ .void) :
    (∀ (output : Option (SwitchValue Script)) (format : CaptionFormat) (emoji : Bool)
      (elsewhere : Host),
      let caption : CaptionOptions := ⟨{ options.job with output }, format, emoji⟩
      Writable elsewhere disk (.annotate caption) →
      ((check host disk options).ending = .ok exitClobbered →
        (annotate elsewhere disk caption).ending = .ok exitClobbered) ∧
      (options.suppress = [] → Unmarked disk (jobSettings options.job).marker options.job.files →
        ∃ code, (code = exitClean ∨ code = exitClobbered) ∧
          (check host disk options).ending = .ok code ∧
          (annotate elsewhere disk caption).ending = .ok code)) ∧
    (∀ (output : Option (SwitchValue Script)) (format : CheckFormat) (severity : String)
      (colour : Option Bool) (elsewhere : Host),
      let changed : CheckOptions :=
        ⟨{ options.job with output }, format, .text severity, options.suppress, colour⟩
      Writable elsewhere disk (.check changed) →
      (check elsewhere disk changed).ending = (check host disk options).ending) ∧
    ((∀ id ∈ options.suppress, id ≠ .void) →
      ∃ code, (code = exitClean ∨ code = exitClobbered) ∧
        (check host disk options).ending = .ok code) ∧
    (∀ (cmd : Command) (elsewhere : Host), cmd.job.files = options.job.files →
      Held elsewhere.limits disk cmd.job.files → Accepts elsewhere disk cmd.job →
      Writable elsewhere disk cmd) := by
  obtain ⟨reports, hreports⟩ := hread.exists_reports (jobSettings options.job)
  have hcheck := ending_check hwrite hreports hseverity
  refine ⟨?_, ?_, ?_, ?_⟩
  · intro output format emoji elsewhere caption hcaption
    have hannotate := hcaption.ending_annotate hreports
    refine ⟨fun hcode => ?_, fun hsuppress hmarker => ?_⟩
    · rw [hcheck] at hcode
      cases hids : options.suppress.mapM (textOf .voidSuppression) with
      | error error =>
          rw [hids] at hcode
          cases hcode
      | ok ids =>
          rw [hids] at hcode
          have hfound : diagnostics (jobSettings options.job) ids reports ≠ [] := by
            intro hnil
            simp only [Except.map, hnil] at hcode
            cases hcode
          rw [hannotate, all_isClean_eq_false hreports hfound]
          rfl
    · refine ⟨codeOf (reports.all FileReport.isClean), codeOf_cases _, ?_, hannotate⟩
      rw [hcheck, hsuppress, ← isEmpty_diagnostics hreports hmarker]
      rfl
  · intro output format severity colour elsewhere changed hchanged
    rw [hcheck]
    exact ending_check hchanged hreports (by simp [changed])
  · intro hids
    have htexts : ¬ Fails (options.suppress.mapM (textOf .voidSuppression)) := by
      rw [fails_mapM_iff]
      rintro ⟨id, hid, hfails⟩
      exact hids id hid (fails_textOf_iff.mp hfails)
    obtain ⟨ids, hids⟩ := not_fails_iff.mp htexts
    rw [hcheck, hids]
    exact ⟨_, codeOf_cases _, rfl⟩
  · intro cmd elsewhere hfiles hheld haccepts
    have hsame : Readable disk cmd.job.files := hfiles ▸ hread
    obtain ⟨others, hothers⟩ := hsame.exists_reports (jobSettings cmd.job)
    exact haccepts.writable hothers hheld

/-- A clobber is told by a check on a terminal, by descriptions with and without a file for the
output, and by a check elsewhere with other options and another output. -/
theorem exit_codes_agree_clobber :
    let disk : Disk := ⟨["w"], [(["w", "f.s"], .file (Script.bytes "F:\n clr.l d2\n rts"))]⟩
    let options : CheckOptions := { job := { files := ["f.s"] } }
    let host (isTerminal : Bool) : Host :=
      ⟨[("HOME", "/w/h")], ⟨80, 80, some 4⟩, fun _ _ text => text, ⟨isTerminal, fun _ _ => none⟩,
        fun _ => none⟩
    let output := some (SwitchValue.text (Script.ofString "~/f.txt"))
    let caption (output : Option (SwitchValue Script)) (format : CaptionFormat) : CaptionOptions :=
      ⟨{ options.job with output }, format, true⟩
    let changed : CheckOptions :=
      ⟨{ options.job with output }, .sarif, .text "error", options.suppress, some true⟩
    (Readable disk options.job.files ∧
      Unmarked disk (jobSettings options.job).marker options.job.files ∧
      Writable (host true) disk (.check options) ∧
      Writable (host false) disk (.annotate (caption output .text)) ∧
      Writable (host true) disk (.annotate (caption none .json)) ∧
      Writable (host false) disk (.check changed)) ∧
    (check (host true) disk options).ending = .ok exitClobbered ∧
    (annotate (host false) disk (caption output .text)).ending = .ok exitClobbered ∧
    (annotate (host true) disk (caption none .json)).ending = .ok exitClobbered ∧
    (check (host false) disk changed).ending = .ok exitClobbered := by
  intro disk options host output caption changed
  have hsource : FileSystem.readText disk "f.s" = .ok "F:\n clr.l d2\n rts".toList := rfl
  have hread : Readable disk options.job.files := by
    intro path hpath
    obtain rfl : path = Script.ofString "f.s" := by simpa [options] using hpath
    exact ⟨_, hsource⟩
  have hmarker : Unmarked disk (jobSettings options.job).marker options.job.files := by
    intro path hpath text htext line hline hinfix
    obtain rfl : path = Script.ofString "f.s" := by simpa [options] using hpath
    obtain rfl := Except.ok.inj (hsource.symm.trans htext)
    have hshort : ∀ line ∈ Text.lines "F:\n clr.l d2\n rts".toList, line.length < 17 := by decide
    exact absurd hinfix.length_le (Nat.not_le.mpr (hshort line hline))
  have hwrite : Writable (host true) disk (.check options) := by decide +kernel
  have hcode : (check (host true) disk options).ending = .ok exitClobbered := by decide +kernel
  obtain ⟨hcaption, hcheck, -, haccepted⟩ :=
    exit_codes_agree (host true) disk options hread hwrite (by simp [options])
  have hheld : Held (host true).limits disk options.job.files := by decide
  have hscreen : Writable (host true) disk (.annotate (caption none .json)) :=
    haccepted _ _ rfl hheld (accepts_stdout rfl (fun _ _ => rfl) fun path hpath => by cases hpath)
  have hopen : (makeSink (host false) disk output).2 = .ok (.file ["w", "h", "f.txt"]) := by
    decide +kernel
  have haccepts : Accepts (host false) disk { options.job with output } :=
    accepts_file hopen (fun _ _ _ => rfl) (by decide) (fun _ _ _ htext => htext)
      fun path hpath => by cases hpath
  have hfile : Writable (host false) disk (.annotate (caption output .text)) :=
    haccepted _ _ rfl hheld haccepts
  have hchanged : Writable (host false) disk (.check changed) := haccepted _ _ rfl hheld haccepts
  obtain ⟨code, -, hsame, hannotate⟩ :=
    (hcaption none .json true (host true) hscreen).2 rfl hmarker
  refine ⟨⟨hread, hmarker, hwrite, hfile, hscreen, hchanged⟩, hcode, ?_, ?_, ?_⟩
  · exact (hcaption output .text true (host false) hfile).1 hcode
  · rw [hcode] at hsame
    rw [Except.ok.inj hsame]
    exact hannotate
  · rw [hcheck output .sarif "error" (some true) (host false) hchanged, hcode]

end Run
end CalleeSaved
