import CalleeSaved.Routine.Span
import Mathlib.Data.List.Basic
import Mathlib.Tactic.Basic

/-!
# Where the routines of a file are

The search for routines scans the marks of a file twice.  This module says what it finds in terms
of positions alone: which lines are label lines, and which are return lines.

**Positions.**  `LabelAt` and `ReturnAt` read one line.  A return is *reachable* from a line
(`Reaches`) when one stands after it, without shared entries before the next label line.  `Ends`
gives the last line of the body after a label line.

**First scan.**  `mem_confirmedAfter_iff`: the waiting labels and the labels to come are confirmed
when a return is ahead of them.

**Second scan.**  `ends_stopAt`: the scan stops at a return, before a label, or at the end of the
file.  `mem_findFrom_iff`: a routine for each label line with a confirmed name.

**Results.**
* `mem_findAll_iff`: the routines of a file, by positions.
* `findAll_ordered`: they stand in the order of their label lines.
* `findAll_exact`: exactly one routine for each label line with a confirmed name.
-/

namespace CalleeSaved

namespace Mark

theorem ofText_eq_label_iff
    {text : Text}
    {name : String} :
    ofText text = .label name ↔ Line.ofText text = .label name := by
  unfold ofText
  cases Line.ofText text with
  | label other =>
      simp [Line.mark]
  | instruction statement =>
      simp only [Line.mark, reduceCtorEq, iff_false]
      split <;> simp
  | blank =>
      simp [Line.mark, Line.isReturn]
  | comment =>
      simp [Line.mark, Line.isReturn]
  | unknown =>
      simp [Line.mark, Line.isReturn]

theorem ofText_eq_ret_iff
    {text : Text} :
    ofText text = .ret ↔ (Line.ofText text).isReturn = true := by
  unfold ofText
  cases Line.ofText text with
  | label other =>
      simp [Line.mark, Line.isReturn]
  | instruction statement =>
      simp only [Line.mark]
      split <;> simp_all
  | blank =>
      simp [Line.mark, Line.isReturn]
  | comment =>
      simp [Line.mark, Line.isReturn]
  | unknown =>
      simp [Line.mark, Line.isReturn]

end Mark

namespace Span

section Positions

/-- The line at the index is a label line with the given name. -/
def LabelAt (lines : List Text) (i : Nat) (name : String) : Prop :=
  ∃ text, lines[i]? = some text ∧ Line.ofText text = .label name

/-- The line at the index is a return line. -/
def ReturnAt (lines : List Text) (i : Nat) : Prop :=
  ∃ text, lines[i]? = some text ∧ (Line.ofText text).isReturn = true

/-- A return line stands after the given line; without shared entries, no label line stands between
them. -/
def Reaches (share : Bool) (lines : List Text) (i : Nat) : Prop :=
  ∃ k, i < k ∧ ReturnAt lines k ∧
    (share = false → ∀ m, i < m → m < k → ∀ name, ¬ LabelAt lines m name)

/-- The body of a routine goes on past the line: it is no return line and, without shared entries,
no label line. -/
def Passes (share : Bool) (lines : List Text) (i : Nat) : Prop :=
  ¬ ReturnAt lines i ∧ (share = false → ∀ name, ¬ LabelAt lines i name)

/-- The body goes on past every line strictly between the two given ones. -/
def Clear (share : Bool) (lines : List Text) (i k : Nat) : Prop :=
  ∀ m, i < m → m < k → Passes share lines m

/-- The last line of the body after the given line: the first return line; without shared entries
the line before the first label line, if that comes first; otherwise the last line of the file. -/
inductive Ends (share : Bool) (lines : List Text) (i : Nat) : Int → Prop
  | atReturn {k : Nat} (after : i < k) (ret : ReturnAt lines k) (clear : Clear share lines i k) :
      Ends share lines i k
  | beforeLabel {m : Nat} {name : String} (mode : share = false) (after : i < m)
      (label : LabelAt lines m name) (clear : Clear share lines i m) :
      Ends share lines i (m - 1)
  | atEnd (clear : Clear share lines i lines.length) :
      Ends share lines i (lines.length - 1)

theorem labelAt_iff
    {lines : List Text}
    {i : Nat}
    {name : String} :
    LabelAt lines i name ↔ (lines.map Mark.ofText)[i]? = some (.label name) := by
  simp only [LabelAt, List.getElem?_map, Option.map_eq_some_iff, Mark.ofText_eq_label_iff]

theorem returnAt_iff
    {lines : List Text}
    {i : Nat} :
    ReturnAt lines i ↔ (lines.map Mark.ofText)[i]? = some .ret := by
  simp only [ReturnAt, List.getElem?_map, Option.map_eq_some_iff, Mark.ofText_eq_ret_iff]

theorem LabelAt.lt_length
    {lines : List Text}
    {i : Nat}
    {name : String}
    (h : LabelAt lines i name) :
    i < lines.length := by
  obtain ⟨text, htext, -⟩ := h
  exact (List.getElem?_eq_some_iff.mp htext).1

theorem ReturnAt.lt_length
    {lines : List Text}
    {i : Nat}
    (h : ReturnAt lines i) :
    i < lines.length := by
  obtain ⟨text, htext, -⟩ := h
  exact (List.getElem?_eq_some_iff.mp htext).1

theorem LabelAt.not_returnAt
    {lines : List Text}
    {i : Nat}
    {name : String}
    (h : LabelAt lines i name) :
    ¬ ReturnAt lines i := by
  rw [labelAt_iff] at h
  simp [returnAt_iff, h]

theorem LabelAt.unique
    {lines : List Text}
    {i : Nat}
    {name name' : String}
    (h : LabelAt lines i name)
    (h' : LabelAt lines i name') :
    name = name' := by
  rw [labelAt_iff] at h h'
  simpa [h] using h'

theorem passes_of_mark
    {share : Bool}
    {lines : List Text}
    {i : Nat}
    {mark : Mark}
    (hmark : (lines.map Mark.ofText)[i]? = some mark)
    (hret : mark ≠ .ret)
    (hlabel : share = false → ∀ name, mark ≠ .label name) :
    Passes share lines i := by
  simpa [Passes, returnAt_iff, labelAt_iff, hmark] using ⟨hret, hlabel⟩

end Positions

section FirstScan

/-- A return stands among the marks; without shared entries, no label stands before it. -/
def ReturnAhead (share : Bool) (marks : List Mark) : Prop :=
  ∃ k : Nat, marks[k]? = some .ret ∧
    (share = false → ∀ m, m < k → ∀ name, marks[m]? ≠ some (.label name))

/-- A label of the given name stands among the marks, with a return ahead of it. -/
def LabelAhead (share : Bool) (marks : List Mark) (name : String) : Prop :=
  ∃ j : Nat, marks[j]? = some (.label name) ∧ ReturnAhead share (marks.drop (j + 1))

theorem not_returnAhead_nil
    (share : Bool) :
    ¬ ReturnAhead share [] := by
  rintro ⟨k, hk, _⟩
  simp at hk

theorem returnAhead_ret
    (share : Bool)
    (rest : List Mark) :
    ReturnAhead share (.ret :: rest) :=
  ⟨0, rfl, fun _ m hm => absurd hm (Nat.not_lt_zero m)⟩

theorem returnAhead_cons_iff
    {share : Bool}
    {mark : Mark}
    {rest : List Mark}
    (hret : mark ≠ .ret) :
    ReturnAhead share (mark :: rest) ↔
      (share = false → ∀ name, mark ≠ .label name) ∧ ReturnAhead share rest := by
  constructor
  · rintro ⟨k, hk, hfree⟩
    cases k with
    | zero =>
        exact absurd (by simpa using hk) hret
    | succ k =>
        refine ⟨?_, k, by simpa using hk, ?_⟩
        · intro hshare name
          simpa using hfree hshare 0 (Nat.succ_pos k) name
        · intro hshare m hm name
          simpa using hfree hshare (m + 1) (by omega) name
  · rintro ⟨hmark, k, hk, hfree⟩
    refine ⟨k + 1, by simpa using hk, ?_⟩
    intro hshare m hm name
    cases m with
    | zero =>
        simpa using hmark hshare name
    | succ m =>
        simpa using hfree hshare m (by omega) name

theorem labelAhead_cons_iff
    {share : Bool}
    {mark : Mark}
    {rest : List Mark}
    {name : String} :
    LabelAhead share (mark :: rest) name ↔
      (mark = .label name ∧ ReturnAhead share rest) ∨ LabelAhead share rest name := by
  unfold LabelAhead
  rw [← Nat.or_exists_add_one]
  simp

end FirstScan

/-- **First scan.**  The labels that wait and the labels to come are confirmed by a return ahead of
them. -/
theorem mem_confirmedAfter_iff
    {share : Bool}
    {name : String}
    {marks : List Mark}
    {waiting : List String} :
    name ∈ confirmedAfter share waiting marks ↔
      (name ∈ waiting ∧ ReturnAhead share marks) ∨ LabelAhead share marks name := by
  induction marks generalizing waiting with
  | nil =>
      simp [confirmedAfter, LabelAhead, not_returnAhead_nil]
  | cons mark rest ih =>
      cases mark with
      | label other =>
          rw [labelAhead_cons_iff, returnAhead_cons_iff (by simp), confirmedAfter, ih]
          cases share with
          | false =>
              have hblocked : ¬ ∀ label, Mark.label other ≠ .label label := by simp
              simp only [Bool.false_eq_true, if_false, List.mem_singleton, Mark.label.injEq,
                forall_const, hblocked, false_and, and_false, false_or]
              tauto
          | true =>
              simp only [if_true, List.mem_append, List.mem_singleton, Mark.label.injEq,
                Bool.true_eq_false, false_imp_iff, true_and]
              tauto
      | ret =>
          have hret := returnAhead_ret share rest
          rw [labelAhead_cons_iff, confirmedAfter, List.mem_append, ih]
          cases share with
          | false =>
              simp only [Bool.false_eq_true, if_false, hret, and_true, reduceCtorEq, false_and,
                false_or]
              tauto
          | true =>
              simp [hret]
      | plain =>
          rw [labelAhead_cons_iff, returnAhead_cons_iff (by simp), confirmedAfter, ih]
          simp

theorem reaches_iff
    {share : Bool}
    {lines : List Text}
    {i : Nat} :
    Reaches share lines i ↔ ReturnAhead share ((lines.map Mark.ofText).drop (i + 1)) := by
  simp only [Reaches, ReturnAhead, labelAt_iff, returnAt_iff, List.getElem?_drop]
  constructor
  · rintro ⟨k, hik, hk, hfree⟩
    obtain ⟨d, rfl⟩ := Nat.exists_eq_add_of_lt hik
    refine ⟨d, by rwa [show i + 1 + d = i + d + 1 by omega], ?_⟩
    intro hshare m hm name
    exact hfree hshare (i + 1 + m) (by omega) (by omega) name
  · rintro ⟨d, hd, hfree⟩
    refine ⟨i + 1 + d, by omega, hd, ?_⟩
    intro hshare m him hm name
    obtain ⟨e, rfl⟩ := Nat.exists_eq_add_of_lt him
    rw [show i + e + 1 = i + 1 + e by omega]
    exact hfree hshare e (by omega) name

/-- The confirmed names are those of label lines from which a return is reachable. -/
theorem mem_confirmed_iff
    {share : Bool}
    {lines : List Text}
    {name : String} :
    name ∈ confirmed share (lines.map Mark.ofText) ↔
      ∃ j, LabelAt lines j name ∧ Reaches share lines j := by
  simp [confirmed, mem_confirmedAfter_iff, LabelAhead, labelAt_iff, reaches_iff]

section SecondScan

theorem Clear.self
    (share : Bool)
    (lines : List Text)
    (i : Nat) :
    Clear share lines i (i + 1) := by
  intro m him hm
  omega

theorem Clear.step
    {share : Bool}
    {lines : List Text}
    {i k : Nat}
    (hclear : Clear share lines (i + 1) k)
    (hpass : Passes share lines (i + 1)) :
    Clear share lines i k := by
  intro m him hm
  rcases Nat.eq_or_lt_of_le him with rfl | hlt
  · exact hpass
  · exact hclear m hlt hm

/-- A body that goes on past its first line ends where the body after that line ends. -/
theorem Ends.step
    {share : Bool}
    {lines : List Text}
    {i : Nat}
    {stop : Int}
    (hends : Ends share lines (i + 1) stop)
    (hpass : Passes share lines (i + 1)) :
    Ends share lines i stop := by
  cases hends with
  | atReturn after ret clear =>
      exact .atReturn (by omega) ret (clear.step hpass)
  | beforeLabel mode after label clear =>
      exact .beforeLabel mode (by omega) label (clear.step hpass)
  | atEnd clear =>
      exact .atEnd (clear.step hpass)

end SecondScan

/-- **Second scan.**  The scan that starts after a line finds the end of the body there. -/
theorem ends_stopAt
    (share : Bool)
    (lines : List Text)
    (i : Nat)
    (hi : i < lines.length) :
    Ends share lines i (stopAt share (i + 1) ((lines.map Mark.ofText).drop (i + 1))) := by
  induction hn : lines.length - (i + 1) generalizing i with
  | zero =>
      have hlast : lines.length = i + 1 := by omega
      have hclear : Clear share lines i lines.length := hlast ▸ Clear.self share lines i
      rw [List.drop_of_length_le (by simp [hlast])]
      simpa [stopAt, hlast] using Ends.atEnd hclear
  | succ n ih =>
      have hnext : i + 1 < (lines.map Mark.ofText).length := by simp; omega
      have hlater := ih (i + 1) (by omega) (by omega)
      have hat := List.getElem?_eq_getElem hnext
      rw [List.drop_eq_getElem_cons hnext]
      cases hmark : (lines.map Mark.ofText)[i + 1] with
      | ret =>
          rw [hmark] at hat
          exact .atReturn (Nat.lt_succ_self i) (returnAt_iff.mpr hat) (Clear.self share lines i)
      | label name =>
          rw [hmark] at hat
          cases share with
          | false =>
              have hends := Ends.beforeLabel rfl (Nat.lt_succ_self i) (labelAt_iff.mpr hat)
                (Clear.self false lines i)
              simpa [stopAt] using hends
          | true =>
              exact hlater.step (passes_of_mark hat (by simp) (by simp))
      | plain =>
          rw [hmark] at hat
          exact hlater.step (passes_of_mark hat (by simp) (by simp))

/-- Where a body stops, its next line or the end of the file holds it up: a return line is the last
line of the body, anything else stands after it. -/
theorem Ends.exists_barrier
    {share : Bool}
    {lines : List Text}
    {i : Nat}
    {stop : Int}
    (hends : Ends share lines i stop)
    (hi : i < lines.length) :
    ∃ p, i < p ∧ p ≤ lines.length ∧ Clear share lines i p ∧
      (p < lines.length → ¬ Passes share lines p) ∧
      (ReturnAt lines p → stop = p) ∧ (¬ ReturnAt lines p → stop = p - 1) := by
  cases hends with
  | @atReturn k after ret clear =>
      refine ⟨k, after, Nat.le_of_lt ret.lt_length, clear, ?_, fun _ => rfl, fun h => absurd ret h⟩
      exact fun _ hpass => hpass.1 ret
  | @beforeLabel m name mode after label clear =>
      refine ⟨m, after, Nat.le_of_lt label.lt_length, clear, ?_, fun h => ?_, fun _ => rfl⟩
      · exact fun _ hpass => hpass.2 mode name label
      · exact absurd h label.not_returnAt
  | atEnd clear =>
      refine ⟨lines.length, hi, Nat.le_refl _, clear, ?_, fun h => ?_, fun _ => rfl⟩
      · exact fun h => absurd h (Nat.lt_irrefl _)
      · exact absurd h.lt_length (Nat.lt_irrefl _)

/-- A body has one end. -/
theorem Ends.unique
    {share : Bool}
    {lines : List Text}
    {i : Nat}
    {stop stop' : Int}
    (hends : Ends share lines i stop)
    (hends' : Ends share lines i stop')
    (hi : i < lines.length) :
    stop = stop' := by
  obtain ⟨p, hip, hp, hclear, hblock, hret, hother⟩ := hends.exists_barrier hi
  obtain ⟨q, hiq, hq, hclear', hblock', hret', hother'⟩ := hends'.exists_barrier hi
  have hpq : p = q := by
    rcases Nat.lt_trichotomy p q with hlt | heq | hgt
    · exact absurd (hclear' p hip hlt) (hblock (by omega))
    · exact heq
    · exact absurd (hclear q hiq hgt) (hblock' (by omega))
  subst hpq
  by_cases h : ReturnAt lines p
  · rw [hret h, hret' h]
  · rw [hother h, hother' h]

theorem Ends.bounds
    {share : Bool}
    {lines : List Text}
    {i : Nat}
    {stop : Int}
    (hends : Ends share lines i stop)
    (hi : i < lines.length) :
    (i : Int) ≤ stop ∧ stop < lines.length := by
  obtain ⟨p, hip, hp, -, -, hret, hother⟩ := hends.exists_barrier hi
  by_cases h : ReturnAt lines p
  · have hlt := h.lt_length
    rw [hret h]
    omega
  · rw [hother h]
    omega

section Routines

/-- The routine of a label line among the marks, for the given confirmed names. -/
def Found (share : Bool) (names : List String) (line : Int) (marks : List Mark)
    (span : Span) : Prop :=
  ∃ i : Nat, marks[i]? = some (.label span.label) ∧ span.label ∈ names ∧
    span.start = line + i ∧ span.stop = stopAt share (line + i + 1) (marks.drop (i + 1))

theorem found_cons_iff
    {share : Bool}
    {names : List String}
    {line : Int}
    {mark : Mark}
    {rest : List Mark}
    {span : Span} :
    Found share names line (mark :: rest) span ↔
      (mark = .label span.label ∧ span.label ∈ names ∧ span.start = line ∧
        span.stop = stopAt share (line + 1) rest) ∨
      Found share names (line + 1) rest span := by
  have hshift (i : Nat) : line + ((i : Int) + 1) = line + 1 + i := by omega
  unfold Found
  rw [← Nat.or_exists_add_one]
  simp [hshift]

end Routines

/-- **Routines.**  The search finds a routine for each label line with a confirmed name. -/
theorem mem_findFrom_iff
    {share : Bool}
    {names : List String}
    {line : Int}
    {marks : List Mark}
    {span : Span} :
    span ∈ findFrom share names line marks ↔ Found share names line marks span := by
  induction marks generalizing line with
  | nil =>
      simp [findFrom, Found]
  | cons mark rest ih =>
      rw [found_cons_iff, ← ih]
      obtain ⟨label, start, stop⟩ := span
      cases mark with
      | label name =>
          by_cases hname : name ∈ names
          · simp only [findFrom, List.contains_eq_mem, hname, decide_true, if_true, List.mem_cons,
              Span.mk.injEq, Mark.label.injEq]
            refine or_congr_left ⟨?_, ?_⟩
            · rintro ⟨rfl, hspan⟩
              exact ⟨rfl, hname, hspan⟩
            · rintro ⟨rfl, -, hspan⟩
              exact ⟨rfl, hspan⟩
          · have hskip : findFrom share names line (.label name :: rest) =
                findFrom share names (line + 1) rest := by
              simp [findFrom, hname]
            rw [hskip]
            constructor
            · exact Or.inr
            · rintro (⟨hlabel, hmem, -⟩ | hlater)
              · exact absurd (Mark.label.inj hlabel ▸ hmem) hname
              · exact hlater
      | ret =>
          simp [findFrom]
      | plain =>
          simp [findFrom]

theorem findFrom_ordered
    (share : Bool)
    (names : List String)
    (line : Int)
    (marks : List Mark) :
    (findFrom share names line marks).Pairwise fun s t => s.start < t.start := by
  induction marks generalizing line with
  | nil =>
      exact List.Pairwise.nil
  | cons mark rest ih =>
      cases mark with
      | label name =>
          by_cases hname : names.contains name = true
          · rw [findFrom, if_pos hname]
            refine List.Pairwise.cons ?_ (ih (line + 1))
            intro later hlater
            obtain ⟨i, -, -, hstart, -⟩ := mem_findFrom_iff.mp hlater
            simp only [hstart]
            omega
          · rw [findFrom, if_neg hname]
            exact ih (line + 1)
      | ret =>
          exact ih (line + 1)
      | plain =>
          exact ih (line + 1)

/-- The routines of a file stand in the order of their label lines. -/
theorem findAll_ordered
    (settings : Settings)
    (lines : List Text) :
    (findAll settings lines).Pairwise fun s t => s.start < t.start :=
  findFrom_ordered _ _ _ _

/-- A routine starts at a label line whose name stands on a label line from which a return is
reachable, and it ends where the body after its own label line ends. -/
theorem mem_findAll_iff
    {settings : Settings}
    {lines : List Text}
    {span : Span} :
    span ∈ findAll settings lines ↔
      ∃ i : Nat, span.start = i ∧ LabelAt lines i span.label ∧
        (∃ j, LabelAt lines j span.label ∧ Reaches settings.shareEntryLabels lines j) ∧
        Ends settings.shareEntryLabels lines i span.stop := by
  simp only [findAll, findMarked, mem_findFrom_iff, Found, ← labelAt_iff, mem_confirmed_iff,
    Int.zero_add]
  constructor
  · rintro ⟨i, hlabel, hconfirmed, hstart, hstop⟩
    refine ⟨i, hstart, hlabel, hconfirmed, ?_⟩
    rw [hstop]
    exact ends_stopAt _ lines i hlabel.lt_length
  · rintro ⟨i, hstart, hlabel, hconfirmed, hends⟩
    refine ⟨i, hlabel, hconfirmed, hstart, ?_⟩
    exact hends.unique (ends_stopAt _ lines i hlabel.lt_length) hlabel.lt_length

/-- A label line starts a routine exactly when its name is confirmed somewhere in the file. -/
theorem exists_start_iff
    {settings : Settings}
    {lines : List Text}
    {i : Nat}
    {name : String}
    (hlabel : LabelAt lines i name) :
    (∃ span ∈ findAll settings lines, span.start = i) ↔
      ∃ j, LabelAt lines j name ∧ Reaches settings.shareEntryLabels lines j := by
  constructor
  · rintro ⟨span, hspan, hstart⟩
    obtain ⟨k, hk, hlabel', hconfirmed, -⟩ := mem_findAll_iff.mp hspan
    obtain rfl : k = i := by omega
    rwa [hlabel'.unique hlabel] at hconfirmed
  · intro hconfirmed
    have hends := ends_stopAt settings.shareEntryLabels lines i hlabel.lt_length
    exact ⟨⟨name, i, _⟩, mem_findAll_iff.mpr ⟨i, rfl, hlabel, hconfirmed, hends⟩, rfl⟩

/-- A label line starts at most one routine. -/
theorem eq_of_start_eq
    {settings : Settings}
    {lines : List Text}
    {span span' : Span}
    (hspan : span ∈ findAll settings lines)
    (hspan' : span' ∈ findAll settings lines)
    (hstart : span.start = span'.start) :
    span = span' := by
  obtain ⟨i, hi, hlabel, -, hends⟩ := mem_findAll_iff.mp hspan
  obtain ⟨k, hk, hlabel', -, hends'⟩ := mem_findAll_iff.mp hspan'
  obtain rfl : k = i := by omega
  obtain ⟨label, start, stop⟩ := span
  obtain ⟨label', start', stop'⟩ := span'
  simp only [Span.mk.injEq]
  exact ⟨hlabel.unique hlabel', hstart, hends.unique hends' hlabel.lt_length⟩

section Bodies

/-- The lines of a routine stand in the file, in order. -/
theorem exists_bounds
    {settings : Settings}
    {lines : List Text}
    {span : Span}
    (hspan : span ∈ findAll settings lines) :
    ∃ i s : Nat, span.start = i ∧ span.stop = s ∧ i ≤ s ∧ s < lines.length := by
  obtain ⟨i, hstart, hlabel, -, hends⟩ := mem_findAll_iff.mp hspan
  obtain ⟨hlow, hhigh⟩ := hends.bounds hlabel.lt_length
  exact ⟨i, span.stop.toNat, hstart, by omega, by omega, by omega⟩

theorem position_of_nat
    {length n : Nat}
    (hn : n ≤ length) :
    position length n = n := by
  unfold position
  rw [if_neg (by omega)]
  omega

theorem body_eq
    {lines : List Text}
    {span : Span}
    {i s : Nat}
    (hstart : span.start = i)
    (hstop : span.stop = s)
    (his : i ≤ s)
    (hs : s < lines.length) :
    span.body lines = (lines.take (s + 1)).drop (i + 1) := by
  have hfirst : position lines.length span.bodyStart = i + 1 := by
    rw [bodyStart, hstart]
    exact_mod_cast position_of_nat (show i + 1 ≤ lines.length by omega)
  have hlast : position lines.length (span.stop + 1) = s + 1 := by
    rw [hstop]
    exact_mod_cast position_of_nat (show s + 1 ≤ lines.length by omega)
  rw [body, window, hfirst, hlast]

/-- The body of a routine consists of the lines after the label line, up to the last one. -/
theorem getElem?_body_iff
    {settings : Settings}
    {lines : List Text}
    {span : Span}
    (hspan : span ∈ findAll settings lines)
    {j : Nat}
    {text : Text} :
    (span.body lines)[j]? = some text ↔
      ∃ k : Nat, (k : Int) = span.bodyStart + j ∧ (k : Int) ≤ span.stop ∧
        lines[k]? = some text := by
  obtain ⟨i, s, hstart, hstop, his, hs⟩ := exists_bounds hspan
  rw [body_eq hstart hstop his hs, List.getElem?_drop, List.getElem?_take, bodyStart, hstart, hstop]
  constructor
  · intro h
    split at h
    · exact ⟨i + 1 + j, by omega, by omega, h⟩
    · exact absurd h (by simp)
  · rintro ⟨k, hk, hks, htext⟩
    obtain rfl : k = i + 1 + j := by omega
    rw [if_pos (by omega)]
    exact htext

/-- The line lies in the body of the routine. -/
def InBody (span : Span) (i : Int) : Prop :=
  span.bodyStart ≤ i ∧ i ≤ span.stop

theorem mem_body_iff
    {settings : Settings}
    {lines : List Text}
    {span : Span}
    (hspan : span ∈ findAll settings lines)
    {text : Text} :
    text ∈ span.body lines ↔ ∃ k : Nat, span.InBody k ∧ lines[k]? = some text := by
  simp only [List.mem_iff_getElem?, getElem?_body_iff hspan]
  constructor
  · rintro ⟨j, k, hk, hstop, htext⟩
    exact ⟨k, ⟨by omega, hstop⟩, htext⟩
  · rintro ⟨k, ⟨hstart, hstop⟩, htext⟩
    exact ⟨(k - span.bodyStart).toNat, k, by omega, hstop, htext⟩

end Bodies

/-- **Location of routines.**  The routines of a file stand in the order of their label lines.  There
is exactly one for each label line whose name stands on some label line from which a return is
reachable; it carries that name and ends where the body after the label line ends. -/
theorem findAll_exact
    (settings : Settings)
    (lines : List Text) :
    ((findAll settings lines).Pairwise fun s t => s.start < t.start) ∧
    (∀ span, span ∈ findAll settings lines ↔
      ∃ i : Nat, span.start = i ∧ LabelAt lines i span.label ∧
        (∃ j, LabelAt lines j span.label ∧ Reaches settings.shareEntryLabels lines j) ∧
        Ends settings.shareEntryLabels lines i span.stop) ∧
    (∀ i name, LabelAt lines i name →
      (∃ j, LabelAt lines j name ∧ Reaches settings.shareEntryLabels lines j) →
      ∃! span, span ∈ findAll settings lines ∧ span.start = i) := by
  refine ⟨findAll_ordered settings lines, fun _ => mem_findAll_iff, ?_⟩
  intro i name hlabel hconfirmed
  obtain ⟨span, hspan, hstart⟩ := (exists_start_iff hlabel).mpr hconfirmed
  refine ⟨span, ⟨hspan, hstart⟩, ?_⟩
  rintro other ⟨hother, hstart'⟩
  exact eq_of_start_eq hother hspan (by rw [hstart, hstart'])

/-- A label line without a reachable return starts a routine when its name is repeated. -/
theorem findAll_exact_outer :
    ∃! span, span ∈ findAll {}
        ["Outer:".toList, " nop".toList, "Inner:".toList, " rts".toList, "Outer:".toList,
          " rte".toList] ∧ span.start = ((0 : Nat) : Int) :=
  (findAll_exact {} _).2.2 0 "Outer" ⟨_, rfl, by decide⟩
    ⟨4, ⟨_, rfl, by decide⟩, 5, by decide, ⟨_, rfl, by decide⟩, by omega⟩

end Span

end CalleeSaved
