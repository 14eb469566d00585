import CalleeSaved.Proofs.CommandLine.Writing
import CalleeSaved.Proofs.Disk.SourceFile

/-!
# Files that cannot be read

A command reads all its files before it writes anything, and gives up at the first that cannot be
read.  This module shows that such a command leaves nothing behind but its exit code and its log,
whatever the file system is and whatever fault it reports.

**The first file.**  `FirstUnreadable` is the first of some files that cannot be read, with the
fault.  `exists_firstUnreadable`: there is one if any file cannot be read.

**Reading.**  `FirstUnreadable.mapM_report`: the reading ends at that file.

**Commands.**  `command_of_mapM_report`: a command that has not read its files only writes its log.

**Result.**  `unreadable_file_fails`.
-/

namespace CalleeSaved

variable {σ : Type} [FileSystem σ]

theorem FileSystem.report_of_fault
    {disk : σ}
    {path : Script}
    {fault : Fault}
    (hnul : Path.holdsNul path = false)
    (hread : read disk (Path.ofScript path) = .error fault)
    (settings : Settings) :
    report disk settings path = .error (.unreadable (Path.ofScript path) fault) := by
  rw [report, readText, hnul, hread]
  rfl

namespace Run

section Reading

/-- The first of some files that cannot be read, and the fault. -/
inductive FirstUnreadable (disk : σ) : List Script → Script → Fault → Prop
  | here {path : Script} {rest : List Script} {fault : Fault}
      (unreadable : FileSystem.read disk (Path.ofScript path) = .error fault) :
      FirstUnreadable disk (path :: rest) path fault
  | later {path other : Script} {rest : List Script} {fault : Fault} {bytes : List UInt8}
      (readable : FileSystem.read disk (Path.ofScript other) = .ok bytes)
      (restFirst : FirstUnreadable disk rest path fault) :
      FirstUnreadable disk (other :: rest) path fault

variable {disk : σ} {files : List Script}

theorem exists_firstUnreadable
    (h : ∃ path ∈ files, ∃ fault, FileSystem.read disk (Path.ofScript path) = .error fault) :
    ∃ path fault, FirstUnreadable disk files path fault := by
  induction files with
  | nil =>
      obtain ⟨path, hpath, -⟩ := h
      cases hpath
  | cons file rest ih =>
      cases hread : FileSystem.read disk (Path.ofScript file) with
      | error fault =>
          exact ⟨file, fault, .here hread⟩
      | ok bytes =>
          obtain ⟨path, hpath, fault, hfault⟩ := h
          rcases List.mem_cons.mp hpath with rfl | hpath
          · rw [hread] at hfault
            cases hfault
          · obtain ⟨first, reason, hfirst⟩ := ih ⟨path, hpath, fault, hfault⟩
            exact ⟨first, reason, .later hread hfirst⟩

/-- The reading ends at the first file that cannot be read. -/
theorem FirstUnreadable.mapM_report
    {path : Script}
    {fault : Fault}
    (h : FirstUnreadable disk files path fault)
    (hnul : ∀ file ∈ files, Path.holdsNul file = false)
    (settings : Settings) :
    files.mapM (FileSystem.report disk settings) =
      .error (.unreadable (Path.ofScript path) fault) := by
  induction h with
  | @here path rest fault unreadable =>
      have hreport :=
        FileSystem.report_of_fault (hnul path List.mem_cons_self) unreadable settings
      rw [List.mapM_cons, hreport]
      rfl
  | @later path other rest fault bytes readable restFirst ih =>
      obtain ⟨hother, hrest⟩ := List.forall_mem_cons.mp hnul
      have hreport := FileSystem.Holds.report_eq ⟨hother, readable⟩ settings
      rw [List.mapM_cons, hreport, ih hrest]
      rfl

end Reading

/-- A command that has not read its files writes nothing but its log. -/
theorem command_of_mapM_report
    {disk : σ}
    {cmd : Command}
    {error : SourceError}
    (h : cmd.job.files.mapM (FileSystem.report disk (jobSettings cmd.job)) = .error error)
    (host : Host) :
    ∃ log, command host disk cmd = unread disk log error := by
  cases cmd with
  | check options =>
      simp only [Command.job] at h
      simp only [command, check, reports_gather, h]
      exact ⟨_, rfl⟩
  | annotate options =>
      simp only [Command.job] at h
      simp only [command, annotate, reports_gather, h]
      exact ⟨_, rfl⟩

/-- **Unreadable files.**  This holds for every file system.  If the files of a command can be named
and one of them, wherever it stands, cannot be read because of any fault, the command ends with the
code for a failed run, writes nothing to standard output and leaves the file system in the state that
it found, whatever its other options and its host are.  The last thing that it logs is why the first
of these files could not be read. -/
theorem unreadable_file_fails
    (host : Host)
    (disk : σ)
    (cmd : Command)
    (hnul : ∀ path ∈ cmd.job.files, Path.holdsNul path = false)
    (hfault : ∃ path ∈ cmd.job.files, ∃ fault,
      FileSystem.read disk (Path.ofScript path) = .error fault) :
    (command host disk cmd).ending = .ok 2 ∧
      (command host disk cmd).stdout = [] ∧
      (command host disk cmd).disk = disk ∧
      ∃ path fault, FirstUnreadable disk cmd.job.files path fault ∧
        (command host disk cmd).notices.getLast? =
          some (.log (.failure (SourceError.unreadable (Path.ofScript path) fault).message)) := by
  obtain ⟨path, fault, hfirst⟩ := exists_firstUnreadable hfault
  have hreports := hfirst.mapM_report hnul (jobSettings cmd.job)
  obtain ⟨log, hcommand⟩ := command_of_mapM_report hreports host
  rw [hcommand]
  refine ⟨rfl, rfl, rfl, path, fault, hfirst, ?_⟩
  simp [unread]

/-- A clobber in the files before it does not show, and neither the output file with its directory nor
the exchange log is made. -/
theorem unreadable_file_fails_late :
    let denied : Fault := ⟨13, "Permission denied"⟩
    let disk : Disk := ⟨["w"], [
      (["w", "f.s"], .file (Script.bytes "F:\n clr.l d2\n rts")), (["w", "g.s"], .barred denied)]⟩
    let job : Job := { files := ["f.s", "g.s", "."], output := some (.text "out/r.txt") }
    let cmd : Command := .check { job, format := .sarif, severity := .text "error" }
    let host : Host :=
      ⟨[("REGTRACK_SARIF", "log.sarif")], ⟨80, 80, some 4⟩, fun _ _ text => text,
        ⟨true, fun _ _ => none⟩, fun _ => none⟩
    (∀ path ∈ job.files, Path.holdsNul path = false) ∧
      FileSystem.read disk (Path.ofScript "g.s") = .error denied ∧
      (command host disk cmd).ending = .ok 2 ∧
      (command host disk cmd).stdout = [] ∧
      (command host disk cmd).disk = disk := by
  intro denied disk job cmd host
  have hnul : ∀ path ∈ job.files, Path.holdsNul path = false := by decide
  have hfault : FileSystem.read disk (Path.ofScript "g.s") = .error denied := rfl
  obtain ⟨hcode, hstdout, hdisk, -⟩ :=
    unreadable_file_fails host disk cmd hnul ⟨"g.s", by decide, denied, hfault⟩
  exact ⟨hnul, hfault, hcode, hstdout, hdisk⟩

end Run
end CalleeSaved
