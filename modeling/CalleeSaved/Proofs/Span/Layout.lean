import CalleeSaved.Proofs.Span.Location

/-!
# How the routines of a file lie

Every routine ends where its own scan stops, and no scan knows of the others.  The scans still
agree, because a scan that starts inside the body of another one goes on to the same end.

**One routine.**  `Ends.passes` and `Ends.not_labelAt`: what no line of a body can be.

**Two routines.**  `Ends.later`: the end of a body is also the end of the body after any later line
of it that is no return.  Hence two routines with a line in common share their end
(`stop_eq_of_start_le_stop`), and without shared entries there are no such two
(`stop_lt_of_start_lt`).

**Result.**  `findAll_layout`: the bounds and the contents of every routine, and the position of
every two of them.
-/

namespace CalleeSaved
namespace Span

/-- The line lies in the routine, from its label line to its last line. -/
def Covers (span : Span) (i : Int) : Prop :=
  span.start ≤ i ∧ i ≤ span.stop

/-- The two routines have no line in common. -/
def Apart (s t : Span) : Prop :=
  ∀ i, ¬ (s.Covers i ∧ t.Covers i)

theorem apart_of_stop_lt
    {s t : Span}
    (h : s.stop < t.start) :
    Apart s t := by
  rintro i ⟨⟨-, hs⟩, ht, -⟩
  omega

theorem Apart.symm
    {s t : Span}
    (h : Apart s t) :
    Apart t s :=
  fun i hi => h i hi.symm

section OneRoutine

/-- A body goes on past every line before its last one. -/
theorem Ends.passes
    {share : Bool}
    {lines : List Text}
    {i m : Nat}
    {stop : Int}
    (hends : Ends share lines i stop)
    (him : i < m)
    (hm : (m : Int) < stop) :
    Passes share lines m := by
  cases hends with
  | atReturn after ret clear =>
      exact clear m him (by omega)
  | beforeLabel mode after label clear =>
      exact clear m him (by omega)
  | atEnd clear =>
      exact clear m him (by omega)

/-- Without shared entries no line of a body is a label line. -/
theorem Ends.not_labelAt
    {lines : List Text}
    {i m : Nat}
    {stop : Int}
    (hends : Ends false lines i stop)
    (him : i < m)
    (hm : (m : Int) ≤ stop)
    (name : String) :
    ¬ LabelAt lines m name := by
  intro hlabel
  cases hends with
  | @atReturn k after ret clear =>
      rcases Nat.lt_or_ge m k with hlt | hge
      · exact (clear m him hlt).2 rfl name hlabel
      · obtain rfl : m = k := by omega
        exact hlabel.not_returnAt ret
  | beforeLabel mode after label clear =>
      exact (clear m him (by omega)).2 rfl name hlabel
  | atEnd clear =>
      exact (clear m him (by omega)).2 rfl name hlabel

end OneRoutine

section TwoRoutines

theorem Clear.later
    {share : Bool}
    {lines : List Text}
    {i j k : Nat}
    (hclear : Clear share lines i k)
    (hij : i ≤ j) :
    Clear share lines j k :=
  fun m hjm hm => hclear m (Nat.lt_of_le_of_lt hij hjm) hm

/-- The end of a body is the end of the body after each later line of it that is no return. -/
theorem Ends.later
    {share : Bool}
    {lines : List Text}
    {i j : Nat}
    {stop : Int}
    (hends : Ends share lines i stop)
    (hij : i ≤ j)
    (hstop : (j : Int) ≤ stop)
    (hret : ¬ ReturnAt lines j) :
    Ends share lines j stop := by
  cases hends with
  | @atReturn k after ret clear =>
      have hne : j ≠ k := by
        rintro rfl
        exact hret ret
      exact .atReturn (by omega) ret (clear.later hij)
  | beforeLabel mode after label clear =>
      exact .beforeLabel mode (by omega) label (clear.later hij)
  | atEnd clear =>
      exact .atEnd (clear.later hij)

/-- A routine that starts inside another one ends with it. -/
theorem stop_eq_of_start_le_stop
    {settings : Settings}
    {lines : List Text}
    {s t : Span}
    (hs : s ∈ findAll settings lines)
    (ht : t ∈ findAll settings lines)
    (hstart : s.start ≤ t.start)
    (hstop : t.start ≤ s.stop) :
    s.stop = t.stop := by
  obtain ⟨i, hi, -, -, hends⟩ := mem_findAll_iff.mp hs
  obtain ⟨j, hj, hlabel, -, hends'⟩ := mem_findAll_iff.mp ht
  have hlater := hends.later (j := j) (by omega) (by omega) hlabel.not_returnAt
  exact hlater.unique hends' hlabel.lt_length

/-- Without shared entries a routine ends before the next one starts. -/
theorem stop_lt_of_start_lt
    {settings : Settings}
    {lines : List Text}
    {s t : Span}
    (hmode : settings.shareEntryLabels = false)
    (hs : s ∈ findAll settings lines)
    (ht : t ∈ findAll settings lines)
    (hstart : s.start < t.start) :
    s.stop < t.start := by
  obtain ⟨i, hi, -, -, hends⟩ := mem_findAll_iff.mp hs
  obtain ⟨j, hj, hlabel, -, -⟩ := mem_findAll_iff.mp ht
  rw [hmode] at hends
  by_contra hinside
  exact hends.not_labelAt (by omega) (by omega) t.label hlabel

/-- Two routines have no line in common, or they share their end. -/
theorem apart_or_stop_eq
    {settings : Settings}
    {lines : List Text}
    {s t : Span}
    (hs : s ∈ findAll settings lines)
    (ht : t ∈ findAll settings lines) :
    Apart s t ∨ s.stop = t.stop := by
  have hordered {s t : Span} (hs : s ∈ findAll settings lines) (ht : t ∈ findAll settings lines)
      (hstart : s.start ≤ t.start) : Apart s t ∨ s.stop = t.stop := by
    by_cases hinside : t.start ≤ s.stop
    · exact Or.inr (stop_eq_of_start_le_stop hs ht hstart hinside)
    · exact Or.inl (apart_of_stop_lt (Int.not_le.mp hinside))
  rcases Int.le_total s.start t.start with hle | hge
  · exact hordered hs ht hle
  · exact (hordered ht hs hge).imp Apart.symm Eq.symm

end TwoRoutines

/-- **Layout of routines.**  The label lines increase, every routine lies in the file, and no line
between its label line and its last line is a return line.  Without shared entries no line after the
label line is a label line, and a routine ends before the next one starts.  With shared entries two
routines have no line in common, or they share their end. -/
theorem findAll_layout
    (settings : Settings)
    (lines : List Text) :
    ((findAll settings lines).Pairwise fun s t => s.start < t.start) ∧
    (∀ span ∈ findAll settings lines,
      0 ≤ span.start ∧ span.start ≤ span.stop ∧ span.stop < lines.length ∧
      ∀ m : Nat, span.start < m → (m : Int) < span.stop → ¬ ReturnAt lines m) ∧
    (settings.shareEntryLabels = false →
      (∀ span ∈ findAll settings lines, ∀ m : Nat,
        span.start < m → (m : Int) ≤ span.stop → ∀ name, ¬ LabelAt lines m name) ∧
      (findAll settings lines).Pairwise fun s t => s.stop < t.start) ∧
    (settings.shareEntryLabels = true →
      ∀ s ∈ findAll settings lines, ∀ t ∈ findAll settings lines,
        Apart s t ∨ s.stop = t.stop) := by
  have hordered := findAll_ordered settings lines
  refine ⟨hordered, ?_, ?_, fun _ s hs t ht => apart_or_stop_eq hs ht⟩
  · intro span hspan
    obtain ⟨i, hi, hlabel, -, hends⟩ := mem_findAll_iff.mp hspan
    obtain ⟨hlow, hhigh⟩ := hends.bounds hlabel.lt_length
    refine ⟨by omega, by omega, hhigh, ?_⟩
    intro m him hm
    exact (hends.passes (by omega) hm).1
  · intro hmode
    refine ⟨?_, ?_⟩
    · intro span hspan m him hm
      obtain ⟨i, hi, -, -, hends⟩ := mem_findAll_iff.mp hspan
      rw [hmode] at hends
      exact hends.not_labelAt (by omega) hm
    · exact hordered.imp_of_mem fun hs ht hstart => stop_lt_of_start_lt hmode hs ht hstart

/-- With shared entries the first two routines of this file end together, on a return past the
second label line, and the third one lies apart from them.  Without them the first routine, which
its repeated name confirms, ends before the second label line. -/
theorem findAll_layout_nested :
    let lines :=
      ["A:".toList, " nop".toList, "B:".toList, " rts".toList, "A:".toList, " rte".toList]
    findAll { shareEntryLabels := true } lines = [⟨"A", 0, 3⟩, ⟨"B", 2, 3⟩, ⟨"A", 4, 5⟩] ∧
      ¬ ReturnAt lines 2 ∧ Apart ⟨"A", 0, 3⟩ ⟨"A", 4, 5⟩ ∧
      findAll {} lines = [⟨"A", 0, 1⟩, ⟨"B", 2, 3⟩, ⟨"A", 4, 5⟩] ∧
      ¬ LabelAt lines 1 "A" ∧ (findAll {} lines).Pairwise (fun s t => s.stop < t.start) := by
  intro lines
  have hshared : findAll { shareEntryLabels := true } lines =
      [⟨"A", 0, 3⟩, ⟨"B", 2, 3⟩, ⟨"A", 4, 5⟩] := by decide
  have halone : findAll {} lines = [⟨"A", 0, 1⟩, ⟨"B", 2, 3⟩, ⟨"A", 4, 5⟩] := by decide
  obtain ⟨-, hcontents, -, htogether⟩ := findAll_layout { shareEntryLabels := true } lines
  obtain ⟨-, -, hseparate, -⟩ := findAll_layout {} lines
  rw [hshared] at hcontents htogether
  refine ⟨hshared, ?_, ?_, halone, ?_, (hseparate rfl).2⟩
  · exact (hcontents ⟨"A", 0, 3⟩ (by simp)).2.2.2 2 (by decide) (by decide)
  · exact (htogether rfl ⟨"A", 0, 3⟩ (by simp) ⟨"A", 4, 5⟩ (by simp)).resolve_right (by decide)
  · exact (hseparate rfl).1 ⟨"A", 0, 1⟩ (by rw [halone]; simp) 1 (by decide) (by decide) "A"

end Span
end CalleeSaved
