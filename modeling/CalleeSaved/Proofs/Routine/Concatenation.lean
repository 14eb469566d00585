import CalleeSaved.Proofs.Span.Location
import CalleeSaved.Routine.Report

/-!
# Files put one after the other

Without shared entries a label line cuts a file in two: no routine reaches past it, and no label
before it waits for a return after it.  So when a file that starts with a label line is put after
another one, and no label name stands in both, the routines of the whole are those of the two parts.

**Scans.**  `confirmedAfter_append`, `stopAt_append` and `findFrom_append`: each scan of the marks
falls apart at a label.  The last routine of the first part ends before that label, where it ended
at the end of the file.

**Moving.**  `findFrom_shift`: the scans only count lines, so lines in front move what they find.

**Bodies.**  `body_append` and `body_shift`: the routines keep their lines.

**Result.**  `routines_append`.
-/

namespace CalleeSaved

namespace Span

/-- The routine with some lines put in front of its file. -/
def shift (n : Nat) (span : Span) : Span :=
  ⟨span.label, span.start + n, span.stop + n⟩

section Moving

theorem stopAt_shift
    (share : Bool)
    (line : Int)
    (n : Nat)
    (marks : List Mark) :
    stopAt share (line + n) marks = stopAt share line marks + n := by
  induction marks generalizing line with
  | nil =>
      simp only [stopAt]
      omega
  | cons mark rest ih =>
      have hnext : stopAt share (line + n + 1) rest = stopAt share (line + 1) rest + n := by
        rw [← ih, Int.add_right_comm]
      cases mark with
      | label name =>
          cases share with
          | false =>
              simp only [stopAt, Bool.false_eq_true, if_false]
              omega
          | true =>
              simpa [stopAt] using hnext
      | ret =>
          rfl
      | plain =>
          exact hnext

theorem findFrom_shift
    (share : Bool)
    (names : List String)
    (line : Int)
    (n : Nat)
    (marks : List Mark) :
    findFrom share names (line + n) marks =
      (findFrom share names line marks).map (shift n) := by
  induction marks generalizing line with
  | nil =>
      rfl
  | cons mark rest ih =>
      have hnext : line + n + 1 = line + 1 + n := Int.add_right_comm line n 1
      cases mark with
      | label name =>
          simp only [findFrom, hnext, ih, stopAt_shift]
          split
          · rfl
          · rfl
      | ret =>
          simp only [findFrom, hnext, ih]
      | plain =>
          simp only [findFrom, hnext, ih]

end Moving

section ScansOfParts

theorem confirmedAfter_append
    (waiting : List String)
    (marks : List Mark)
    (name : String)
    (rest : List Mark) :
    confirmedAfter false waiting (marks ++ .label name :: rest) =
      confirmedAfter false waiting marks ++ confirmed false (.label name :: rest) := by
  induction marks generalizing waiting with
  | nil =>
      rfl
  | cons mark marks ih =>
      cases mark with
      | label other =>
          exact ih [other]
      | ret =>
          simp only [List.cons_append, confirmedAfter, Bool.false_eq_true, if_false, ih,
            List.append_assoc]
      | plain =>
          exact ih waiting

/-- A label stops the scan where the end of the file would. -/
theorem stopAt_append
    (line : Int)
    (marks : List Mark)
    (name : String)
    (rest : List Mark) :
    stopAt false line (marks ++ .label name :: rest) = stopAt false line marks := by
  induction marks generalizing line with
  | nil =>
      rfl
  | cons mark marks ih =>
      cases mark with
      | label other =>
          rfl
      | ret =>
          rfl
      | plain =>
          exact ih (line + 1)

theorem findFrom_append
    (names : List String)
    (line : Int)
    (marks : List Mark)
    (name : String)
    (rest : List Mark) :
    findFrom false names line (marks ++ .label name :: rest) =
      findFrom false names line marks ++
        findFrom false names (line + marks.length) (.label name :: rest) := by
  induction marks generalizing line with
  | nil =>
      simp [findFrom]
  | cons mark marks ih =>
      have hnext : line + (mark :: marks).length = line + 1 + marks.length := by
        simp only [List.length_cons]
        omega
      rw [hnext]
      cases mark with
      | label other =>
          simp only [List.cons_append, findFrom, stopAt_append, ih (line + 1)]
          split
          · rfl
          · rfl
      | ret =>
          exact ih (line + 1)
      | plain =>
          exact ih (line + 1)

end ScansOfParts

section ConfirmedNames

theorem findFrom_congr
    {names others : List String}
    {marks : List Mark}
    (hsame : ∀ name, Mark.label name ∈ marks → (name ∈ names ↔ name ∈ others))
    (share : Bool)
    (line : Int) :
    findFrom share names line marks = findFrom share others line marks := by
  induction marks generalizing line with
  | nil =>
      rfl
  | cons mark rest ih =>
      have hrest := ih (fun name hname => hsame name (List.mem_cons_of_mem mark hname)) (line + 1)
      cases mark with
      | label name =>
          have hname : names.contains name = others.contains name := by
            rw [Bool.eq_iff_iff, List.contains_iff_mem, List.contains_iff_mem]
            exact hsame name List.mem_cons_self
          simp only [findFrom, hname, hrest]
      | ret =>
          exact hrest
      | plain =>
          exact hrest

theorem label_mem_of_mem_confirmed
    {share : Bool}
    {marks : List Mark}
    {name : String}
    (h : name ∈ confirmed share marks) :
    Mark.label name ∈ marks := by
  rcases mem_confirmedAfter_iff.mp h with ⟨hwaiting, -⟩ | ⟨j, hj, -⟩
  · simp at hwaiting
  · exact List.mem_of_getElem? hj

theorem findMarked_append
    {marks rest : List Mark}
    {first : String}
    (hapart : ∀ name, Mark.label name ∈ marks → Mark.label name ∉ Mark.label first :: rest) :
    findMarked false (marks ++ .label first :: rest) =
      findMarked false marks ++
        (findMarked false (.label first :: rest)).map (shift marks.length) := by
  have hnames :
      confirmed false (marks ++ .label first :: rest) =
        confirmed false marks ++ confirmed false (.label first :: rest) :=
    confirmedAfter_append [] marks first rest
  have hleft (name : String) (hname : Mark.label name ∈ marks) :
      name ∈ confirmed false marks ++ confirmed false (.label first :: rest) ↔
        name ∈ confirmed false marks := by
    have hother : name ∉ confirmed false (.label first :: rest) :=
      fun h => hapart name hname (label_mem_of_mem_confirmed h)
    simp [hother]
  have hright (name : String) (hname : Mark.label name ∈ Mark.label first :: rest) :
      name ∈ confirmed false marks ++ confirmed false (.label first :: rest) ↔
        name ∈ confirmed false (.label first :: rest) := by
    have hother : name ∉ confirmed false marks :=
      fun h => hapart name (label_mem_of_mem_confirmed h) hname
    simp [hother]
  rw [findMarked, hnames, findFrom_append, findFrom_congr hleft, findFrom_congr hright,
    findFrom_shift]
  rfl

end ConfirmedNames

section RoutinesAndBodies

theorem findAll_append
    {settings : Settings}
    {xs ys : List Text}
    {first : String}
    (hmode : settings.shareEntryLabels = false)
    (hstart : LabelAt ys 0 first)
    (hapart : ∀ i j name, LabelAt xs i name → ¬ LabelAt ys j name) :
    findAll settings (xs ++ ys) =
      findAll settings xs ++ (findAll settings ys).map (shift xs.length) := by
  obtain ⟨rest, hrest⟩ : ∃ rest, ys.map Mark.ofText = .label first :: rest := by
    have hhead := labelAt_iff.mp hstart
    rw [← List.head?_eq_getElem?] at hhead
    exact List.head?_eq_some_iff.mp hhead
  have hmarks (name : String) (hname : Mark.label name ∈ xs.map Mark.ofText) :
      Mark.label name ∉ Mark.label first :: rest := by
    rw [← hrest]
    intro hother
    obtain ⟨i, hi⟩ := List.mem_iff_getElem?.mp hname
    obtain ⟨j, hj⟩ := List.mem_iff_getElem?.mp hother
    exact hapart i j name (labelAt_iff.mpr hi) (labelAt_iff.mpr hj)
  have hwhole := findMarked_append hmarks
  rw [List.length_map, ← hrest] at hwhole
  simpa [findAll, hmode] using hwhole

theorem body_append
    {settings : Settings}
    {xs : List Text}
    {span : Span}
    (hspan : span ∈ findAll settings xs)
    (ys : List Text) :
    span.body (xs ++ ys) = span.body xs := by
  obtain ⟨i, s, hstart, hstop, his, hs⟩ := exists_bounds hspan
  have hlonger : s < (xs ++ ys).length := by
    simp only [List.length_append]
    omega
  rw [body_eq hstart hstop his hlonger, body_eq hstart hstop his hs,
    List.take_append_of_le_length (by omega)]

theorem body_shift
    {settings : Settings}
    {ys : List Text}
    {span : Span}
    (hspan : span ∈ findAll settings ys)
    (xs : List Text) :
    (span.shift xs.length).body (xs ++ ys) = span.body ys := by
  obtain ⟨i, s, hstart, hstop, his, hs⟩ := exists_bounds hspan
  have hfirst : (span.shift xs.length).start = (xs.length + i : Nat) := by
    simp only [shift, hstart]
    omega
  have hlast : (span.shift xs.length).stop = (xs.length + s : Nat) := by
    simp only [shift, hstop]
    omega
  have hlonger : xs.length + s < (xs ++ ys).length := by
    simp only [List.length_append]
    omega
  rw [body_eq hfirst hlast (by omega) hlonger, body_eq hstart hstop his hs, Nat.add_assoc,
    Nat.add_assoc, List.take_length_add_append, List.drop_length_add_append]

end RoutinesAndBodies

end Span

/-- The clobber with some lines put in front of its file. -/
def Clobber.shift (n : Nat) (clobber : Clobber) : Clobber :=
  { clobber with line := clobber.line + n }

theorem Clobber.findAll_shift
    (usage : Usage)
    (line : Int)
    (n : Nat)
    (body : List Text) :
    findAll usage (line + n) body = (findAll usage line body).map (shift n) := by
  induction body generalizing line with
  | nil =>
      rfl
  | cons text rest ih =>
      rw [findAll, findAll, List.map_append, ← ih, Int.add_right_comm]
      congr 1
      cases register? usage text <;> rfl

namespace RoutineReport

/-- The report with some lines put in front of its file: the lines it names move, the label, the
verdict and the registers stay. -/
def shift (n : Nat) (report : RoutineReport) : RoutineReport :=
  ⟨report.span.shift n, report.verdict, report.clobbers.map (Clobber.shift n)⟩

theorem ofSpan_append
    {settings : Settings}
    {xs : List Text}
    {span : Span}
    (hspan : span ∈ Span.findAll settings xs)
    (ys : List Text) :
    ofSpan (xs ++ ys) span = ofSpan xs span := by
  simp only [ofSpan, Span.body_append hspan]

theorem ofSpan_shift
    {settings : Settings}
    {ys : List Text}
    {span : Span}
    (hspan : span ∈ Span.findAll settings ys)
    (xs : List Text) :
    ofSpan (xs ++ ys) (span.shift xs.length) = (ofSpan ys span).shift xs.length := by
  have hline : (span.shift xs.length).bodyStart = span.bodyStart + xs.length := by
    simp only [Span.bodyStart, Span.shift]
    omega
  simp only [ofSpan, shift, Span.body_shift hspan, hline, Clobber.findAll_shift]

end RoutineReport

namespace FileReport

/-- **Concatenation.**  Without shared entries, let the second of two files start with a label line
and share no label name with the first.  One after the other, they have the routines of the first
file and then those of the second, whose lines are moved by the length of the first. -/
theorem routines_append
    (settings : Settings)
    (path : Script)
    (xs ys : List Text)
    (hmode : settings.shareEntryLabels = false)
    (hstart : ∃ first, Span.LabelAt ys 0 first)
    (hapart : ∀ i j name, Span.LabelAt xs i name → ¬ Span.LabelAt ys j name) :
    (ofLines settings path (xs ++ ys)).routines =
      (ofLines settings path xs).routines ++
        (ofLines settings path ys).routines.map (RoutineReport.shift xs.length) := by
  obtain ⟨first, hfirst⟩ := hstart
  simp only [ofLines, Span.findAll_append hmode hfirst hapart, List.map_append, List.map_map]
  congr 1
  · refine List.map_congr_left fun span hspan => ?_
    exact RoutineReport.ofSpan_append hspan ys
  · refine List.map_congr_left fun span hspan => ?_
    exact RoutineReport.ofSpan_shift hspan xs

/-- The second routine of the first file has no return, so it reaches to the end of that file.  In
the whole it ends at the same line, before the label of the second file. -/
theorem routines_append_open_end :
    let xs := ["A:".toList, " rts".toList, "A:".toList, " clr.l d2".toList]
    let ys := ["B:".toList, " clr.l d3".toList, " rts".toList]
    ((ofLines {} "input" (xs ++ ys)).routines.map fun routine =>
        (routine.span, routine.clobbers)) =
      [(⟨"A", 0, 1⟩, []), (⟨"A", 2, 3⟩, [⟨3, .d 2⟩]), (⟨"B", 4, 6⟩, [⟨5, .d 3⟩])] ∧
    (ofLines {} "input" (xs ++ ys)).routines =
      (ofLines {} "input" xs).routines ++
        (ofLines {} "input" ys).routines.map (RoutineReport.shift 4) := by
  intro xs ys
  have hxs : xs.map Mark.ofText = [.label "A", .ret, .label "A", .plain] := by decide
  have hys : ys.map Mark.ofText = [.label "B", .plain, .ret] := by decide
  refine ⟨by decide, routines_append {} "input" xs ys rfl ⟨"B", _, rfl, by decide⟩ ?_⟩
  intro i j name hi hj
  have hnames : name = "A" ∧ name = "B" := by
    have hi' := List.mem_of_getElem? (Span.labelAt_iff.mp hi)
    have hj' := List.mem_of_getElem? (Span.labelAt_iff.mp hj)
    simpa [hxs, hys] using And.intro hi' hj'
  exact absurd (hnames.1.symm.trans hnames.2) (by decide)

end FileReport

end CalleeSaved
