import CalleeSaved.Proofs.Span.Closure
import Mathlib.Data.List.Sort

/-!
# A plain line put into a file

A line that is neither a label nor a return decides nothing about the routines of a file.  When one
is put in, the search finds the same routines, and what stands at the place of the new line or after
it moves down by one.

**Indices.**  `Line.shiftFrom` gives the new index of an old line.  `getElem?_insert`: the line there
is the old one.  So label lines and return lines stay what they are (`labelAt_insert_iff`,
`returnAt_insert_iff`).

**First scan.**  `confirmedAfter_insert`: a plain mark confirms nothing.

**Second scan.**  `Ends.insert`: a body is held up by the same line, or by the end of the file.  The
last line of a body that no return ends stands before that line, so a new line between the two
belongs to the body.

**Result.**  `findAll_insert`.
-/

namespace CalleeSaved

/-- Two lists in strictly increasing order of a key are equal when they have the same members. -/
theorem eq_of_mem_iff_of_ordered
    {α : Type}
    (key : α → Int)
    {as bs : List α}
    (has : as.Pairwise fun a b => key a < key b)
    (hbs : bs.Pairwise fun a b => key a < key b)
    (hsame : ∀ a, a ∈ as ↔ a ∈ bs) :
    as = bs := by
  have : Std.Antisymm fun a b : α => key a < key b :=
    ⟨fun a b hab hba => absurd hba (Int.lt_asymm hab)⟩
  have : Std.Irrefl fun a b : α => key a < key b :=
    ⟨fun a => Int.lt_irrefl (key a)⟩
  exact has.eq_of_mem_iff hbs hsame

namespace Line

/-- The index of a line after a line is put in at the index `n`. -/
def shiftFrom (n : Nat) (k : Int) : Int :=
  if k < n then k else k + 1

theorem exists_shiftFrom
    (n i : Nat) :
    ∃ j : Nat, shiftFrom n i = j := by
  unfold shiftFrom
  split
  · exact ⟨i, rfl⟩
  · exact ⟨i + 1, rfl⟩

/-- Every line but the new one stood in the file before. -/
theorem exists_shiftFrom_eq
    {n j : Nat}
    (h : j ≠ n) :
    ∃ i : Nat, shiftFrom n i = j := by
  unfold shiftFrom
  rcases Nat.lt_or_gt_of_ne h with hlt | hgt
  · exact ⟨j, if_pos (by omega)⟩
  · refine ⟨j - 1, ?_⟩
    rw [if_neg (by omega)]
    omega

theorem shiftFrom_lt_iff
    {n : Nat}
    {k m : Int} :
    shiftFrom n k < shiftFrom n m ↔ k < m := by
  unfold shiftFrom
  split <;> split <;> omega

theorem shiftFrom_le_iff
    {n : Nat}
    {k m : Int} :
    shiftFrom n k ≤ shiftFrom n m ↔ k ≤ m := by
  rw [← Int.not_lt, shiftFrom_lt_iff, Int.not_lt]

end Line

namespace Span

/-- The routine after a plain line is put into its file at the index `n`.  A routine that ends on a
return keeps that end; any other one reaches, as before, to the line before the label line or the end
of the file that holds it up. -/
def makeRoom (lines : List Text) (n : Nat) (span : Span) : Span :=
  ⟨span.label, Line.shiftFrom n span.start,
    if span.EndsOnReturn lines then Line.shiftFrom n span.stop
    else Line.shiftFrom n (span.stop + 1) - 1⟩

/-- A line lies in the body of a routine exactly when it did before the new line was put in. -/
theorem inBody_makeRoom_iff
    {lines : List Text}
    {n : Nat}
    {span : Span}
    {k : Int} :
    (span.makeRoom lines n).InBody (Line.shiftFrom n k) ↔ span.InBody k := by
  have hstart : Line.shiftFrom n span.start + 1 ≤ Line.shiftFrom n k ↔ span.start + 1 ≤ k :=
    Line.shiftFrom_lt_iff
  simp only [InBody, bodyStart, makeRoom, hstart]
  split
  · rw [Line.shiftFrom_le_iff]
  · rw [Int.le_sub_one_iff, Line.shiftFrom_lt_iff, Int.lt_add_one_iff]

section Insertion

variable
  {xs ys : List Text}
  {text : Text}
  {share : Bool}
  {i j : Nat}

theorem getElem?_insert
    (hij : Line.shiftFrom xs.length i = j) :
    (xs ++ text :: ys)[j]? = (xs ++ ys)[i]? := by
  unfold Line.shiftFrom at hij
  split at hij
  · obtain rfl : i = j := by omega
    rw [List.getElem?_append_left (by omega), List.getElem?_append_left (by omega)]
  · obtain rfl : j = i + 1 := by omega
    rw [List.getElem?_append_right (by omega), List.getElem?_append_right (by omega),
      Nat.succ_sub (by omega), List.getElem?_cons_succ]

theorem labelAt_insert_iff
    (hij : Line.shiftFrom xs.length i = j)
    {name : String} :
    LabelAt (xs ++ text :: ys) j name ↔ LabelAt (xs ++ ys) i name := by
  simp only [LabelAt, getElem?_insert hij]

theorem returnAt_insert_iff
    (hij : Line.shiftFrom xs.length i = j) :
    ReturnAt (xs ++ text :: ys) j ↔ ReturnAt (xs ++ ys) i := by
  simp only [ReturnAt, getElem?_insert hij]

theorem confirmedAfter_insert
    (share : Bool)
    (waiting : List String)
    (marks rest : List Mark) :
    confirmedAfter share waiting (marks ++ .plain :: rest) =
      confirmedAfter share waiting (marks ++ rest) := by
  induction marks generalizing waiting with
  | nil =>
      rfl
  | cons mark marks ih =>
      cases mark with
      | label name =>
          exact ih _
      | ret =>
          simp only [List.cons_append, confirmedAfter, ih]
      | plain =>
          exact ih waiting

theorem makeRoom_stop_of_clear
    {span : Span}
    {name : String}
    {p q : Nat}
    (hlabel : LabelAt (xs ++ ys) i name)
    (hip : i < p)
    (hclear : Clear share (xs ++ ys) i p)
    (hstop : span.stop = p - 1)
    (hpq : Line.shiftFrom xs.length p = q) :
    (span.makeRoom (xs ++ ys) xs.length).stop = q - 1 := by
  have hopen : ¬ span.EndsOnReturn (xs ++ ys) := by
    rw [endsOnReturn_iff (k := p - 1) (by omega)]
    exact not_returnAt_of_clear hlabel hclear (by omega) (by omega)
  have hnext : span.stop + 1 = p := by omega
  simp only [makeRoom, if_neg hopen, hnext, hpq]

variable (hplain : Mark.ofText text = .plain)
include hplain

theorem exists_confirmed_insert_iff
    {name : String} :
    (∃ k, LabelAt (xs ++ text :: ys) k name ∧ Reaches share (xs ++ text :: ys) k) ↔
      ∃ k, LabelAt (xs ++ ys) k name ∧ Reaches share (xs ++ ys) k := by
  simp only [← mem_confirmed_iff, confirmed, List.map_append, List.map_cons, hplain,
    confirmedAfter_insert]

theorem passes_new
    (share : Bool) :
    Passes share (xs ++ text :: ys) xs.length := by
  have hmark : ((xs ++ text :: ys).map Mark.ofText)[xs.length]? = some .plain := by
    simp [hplain]
  exact passes_of_mark hmark (by simp) (by simp)

theorem Clear.insert
    {p q : Nat}
    (hclear : Clear share (xs ++ ys) i p)
    (hij : Line.shiftFrom xs.length i = j)
    (hpq : Line.shiftFrom xs.length p = q) :
    Clear share (xs ++ text :: ys) j q := by
  intro m hjm hmq
  by_cases hnew : m = xs.length
  · rw [hnew]
    exact passes_new hplain share
  · obtain ⟨k, hk⟩ := Line.exists_shiftFrom_eq hnew
    have hik : (i : Int) < k := by
      rw [← Line.shiftFrom_lt_iff (n := xs.length)]
      omega
    have hkp : (k : Int) < p := by
      rw [← Line.shiftFrom_lt_iff (n := xs.length)]
      omega
    obtain ⟨hret, hlabel⟩ := hclear k (by omega) (by omega)
    refine ⟨?_, ?_⟩
    · rwa [returnAt_insert_iff hk]
    · intro hshare name
      rw [labelAt_insert_iff hk]
      exact hlabel hshare name

/-- **Second scan.**  The body after a label line ends where room is made for the new line. -/
theorem Ends.insert
    {span : Span}
    {stop : Int}
    {name : String}
    (hends : Ends share (xs ++ ys) i stop)
    (hstop : span.stop = stop)
    (hlabel : LabelAt (xs ++ ys) i name)
    (hij : Line.shiftFrom xs.length i = j) :
    Ends share (xs ++ text :: ys) j (span.makeRoom (xs ++ ys) xs.length).stop := by
  have hafter {p q : Nat} (hip : i < p) (hpq : Line.shiftFrom xs.length p = q) : j < q := by
    rw [← Int.ofNat_lt, ← hij, ← hpq, Line.shiftFrom_lt_iff]
    exact Int.ofNat_lt.mpr hip
  cases hends with
  | @atReturn k after ret clear =>
      obtain ⟨q, hq⟩ := Line.exists_shiftFrom xs.length k
      have hclosed : (span.makeRoom (xs ++ ys) xs.length).stop = q := by
        simp only [makeRoom, if_pos ((endsOnReturn_iff hstop).mpr ret), hstop, hq]
      rw [hclosed]
      exact .atReturn (hafter after hq) ((returnAt_insert_iff hq).mpr ret)
        (clear.insert hplain hij hq)
  | @beforeLabel m other mode after label clear =>
      obtain ⟨q, hq⟩ := Line.exists_shiftFrom xs.length m
      rw [makeRoom_stop_of_clear hlabel after clear hstop hq]
      exact .beforeLabel mode (hafter after hq) ((labelAt_insert_iff hq).mpr label)
        (clear.insert hplain hij hq)
  | atEnd clear =>
      have hq : Line.shiftFrom xs.length (xs ++ ys).length = (xs ++ text :: ys).length := by
        simp only [Line.shiftFrom, List.length_append, List.length_cons]
        rw [if_neg (by omega)]
        omega
      rw [makeRoom_stop_of_clear hlabel hlabel.lt_length clear hstop hq]
      exact .atEnd (clear.insert hplain hij hq)

theorem makeRoom_mem_findAll
    {settings : Settings}
    {span : Span}
    (hspan : span ∈ findAll settings (xs ++ ys)) :
    span.makeRoom (xs ++ ys) xs.length ∈ findAll settings (xs ++ text :: ys) := by
  obtain ⟨i, hstart, hlabel, hconfirmed, hends⟩ := mem_findAll_iff.mp hspan
  obtain ⟨j, hj⟩ := Line.exists_shiftFrom xs.length i
  refine mem_findAll_iff.mpr ⟨j, ?_, ?_, ?_, hends.insert hplain rfl hlabel hj⟩
  · simp only [makeRoom, hstart, hj]
  · exact (labelAt_insert_iff hj).mpr hlabel
  · exact (exists_confirmed_insert_iff hplain).mpr hconfirmed

theorem mem_findAll_insert_iff
    {settings : Settings}
    {moved : Span} :
    moved ∈ findAll settings (xs ++ text :: ys) ↔
      ∃ span ∈ findAll settings (xs ++ ys), span.makeRoom (xs ++ ys) xs.length = moved := by
  constructor
  · intro hmoved
    obtain ⟨j, hstart, hlabel, hconfirmed, -⟩ := mem_findAll_iff.mp hmoved
    have hnew : j ≠ xs.length := by
      rintro rfl
      exact (passes_new hplain false).2 rfl moved.label hlabel
    obtain ⟨i, hi⟩ := Line.exists_shiftFrom_eq hnew
    rw [labelAt_insert_iff hi] at hlabel
    rw [exists_confirmed_insert_iff hplain, ← exists_start_iff hlabel] at hconfirmed
    obtain ⟨span, hspan, hspanStart⟩ := hconfirmed
    refine ⟨span, hspan, eq_of_start_eq (makeRoom_mem_findAll hplain hspan) hmoved ?_⟩
    simp only [makeRoom, hspanStart, hi, hstart]
  · rintro ⟨span, hspan, rfl⟩
    exact makeRoom_mem_findAll hplain hspan

end Insertion
end Span

/-- **Routines.**  A plain line put into a file leaves the routines, in their order, and makes room for
itself in each of them. -/
theorem Span.findAll_insert
    {xs ys : List Text}
    {text : Text}
    (hplain : Mark.ofText text = .plain)
    (settings : Settings) :
    findAll settings (xs ++ text :: ys) =
      (findAll settings (xs ++ ys)).map (makeRoom (xs ++ ys) xs.length) := by
  refine eq_of_mem_iff_of_ordered Span.start (findAll_ordered _ _) ?_ ?_
  · rw [List.pairwise_map]
    exact (findAll_ordered settings (xs ++ ys)).imp fun h => Line.shiftFrom_lt_iff.mpr h
  · intro span
    rw [mem_findAll_insert_iff hplain, List.mem_map]

end CalleeSaved
