import CalleeSaved.Proofs.Span.Location

/-!
# Routines that end on a return

A routine is *closed* when its last line is a return line after its label line.  Names are confirmed
for the whole file, so a label line from which no return is reachable can still start a routine: it
is enough that its name stands on another label line from which one is.  Such a routine is not
closed.

**Last lines.**  `EndsOnReturn` reads the last line of a routine alone.  `not_returnAt_of_clear`: no
return line stands before the line that holds up a body.

**Results.**
* `closed_iff_reaches`: a routine is closed exactly when a return is reachable from its own label
  line.
* `findAll_closed_iff`: when every routine of a file is closed, and when a label line without a
  reachable return starts a routine.
* `repeated_label_not_closed`: a file of four lines with a routine that is not closed.
-/

namespace CalleeSaved
namespace Span

/-- The last line of the routine is a return line after its label line. -/
def Closed (lines : List Text) (span : Span) : Prop :=
  span.start < span.stop ∧ ∃ k : Nat, span.stop = k ∧ ReturnAt lines k

instance
    (lines : List Text)
    (i : Nat) :
    Decidable (ReturnAt lines i) :=
  decidable_of_iff ((lines.map Mark.ofText)[i]? = some .ret) returnAt_iff.symm

/-- The last line of the routine is a return line. -/
def EndsOnReturn (lines : List Text) (span : Span) : Prop :=
  0 ≤ span.stop ∧ ReturnAt lines span.stop.toNat

instance
    (lines : List Text)
    (span : Span) :
    Decidable (EndsOnReturn lines span) :=
  inferInstanceAs (Decidable (_ ∧ _))

theorem endsOnReturn_iff
    {lines : List Text}
    {span : Span}
    {k : Nat}
    (hstop : span.stop = k) :
    EndsOnReturn lines span ↔ ReturnAt lines k := by
  simp [EndsOnReturn, hstop]

/-- Neither a label line nor a line that its body goes past is a return line. -/
theorem not_returnAt_of_clear
    {share : Bool}
    {lines : List Text}
    {i k p : Nat}
    {name : String}
    (hlabel : LabelAt lines i name)
    (hclear : Clear share lines i p)
    (hik : i ≤ k)
    (hkp : k < p) :
    ¬ ReturnAt lines k := by
  rcases Nat.eq_or_lt_of_le hik with rfl | hlt
  · exact hlabel.not_returnAt
  · exact (hclear k hlt hkp).1

/-- A return is reachable from a line exactly when it is the first line to hold up the body. -/
theorem reaches_iff_returnAt
    {share : Bool}
    {lines : List Text}
    {i p : Nat}
    (hip : i < p)
    (hp : p ≤ lines.length)
    (hclear : Clear share lines i p)
    (hblock : p < lines.length → ¬ Passes share lines p) :
    Reaches share lines i ↔ ReturnAt lines p := by
  constructor
  · rintro ⟨k, hik, hret, hfree⟩
    rcases Nat.lt_trichotomy k p with hlt | rfl | hgt
    · exact absurd hret (hclear k hik hlt).1
    · exact hret
    · by_contra hno
      have hplen : p < lines.length := Nat.lt_trans hgt hret.lt_length
      exact hblock hplen ⟨hno, fun hshare => hfree hshare p hip hgt⟩
  · intro hret
    exact ⟨p, hip, hret, fun hshare m him hm => (hclear m him hm).2 hshare⟩

/-- A body ends on a return line after its label line exactly when a return is reachable. -/
theorem Ends.returnAt_iff_reaches
    {share : Bool}
    {lines : List Text}
    {i : Nat}
    {stop : Int}
    {name : String}
    (hends : Ends share lines i stop)
    (hlabel : LabelAt lines i name) :
    ((i : Int) < stop ∧ ∃ k : Nat, stop = k ∧ ReturnAt lines k) ↔ Reaches share lines i := by
  obtain ⟨p, hip, hp, hclear, hblock, hret, hother⟩ :=
    hends.exists_barrier hlabel.lt_length
  rw [reaches_iff_returnAt hip hp hclear hblock]
  constructor
  · rintro ⟨hlt, k, rfl, hk⟩
    by_contra hno
    have hstop := hother hno
    exact (hclear k (by omega) (by omega)).1 hk
  · intro h
    rw [hret h]
    exact ⟨by omega, p, rfl, h⟩

/-- A routine is closed exactly when a return is reachable from its own label line. -/
theorem closed_iff_reaches
    {settings : Settings}
    {lines : List Text}
    {span : Span}
    (hspan : span ∈ findAll settings lines)
    {i : Nat}
    (hstart : span.start = i) :
    Closed lines span ↔ Reaches settings.shareEntryLabels lines i := by
  obtain ⟨j, hj, hlabel, -, hends⟩ := mem_findAll_iff.mp hspan
  obtain rfl : j = i := by omega
  rw [Closed, hstart]
  exact hends.returnAt_iff_reaches hlabel

/-- **Closed routines.**  Every routine of a file is closed exactly when a return is reachable from
every label line whose name stands on a label line from which a return is reachable.  Routine by
routine, it is closed exactly when a return is reachable from its own label line; and a label line
from which none is starts a routine exactly when its name stands on another one from which one
is. -/
theorem findAll_closed_iff
    (settings : Settings)
    (lines : List Text) :
    ((∀ span ∈ findAll settings lines, Closed lines span) ↔
      ∀ i j name, LabelAt lines i name → LabelAt lines j name →
        Reaches settings.shareEntryLabels lines j → Reaches settings.shareEntryLabels lines i) ∧
    (∀ span ∈ findAll settings lines, ∀ i : Nat, span.start = i →
      (Closed lines span ↔ Reaches settings.shareEntryLabels lines i)) ∧
    (∀ i name, LabelAt lines i name → ¬ Reaches settings.shareEntryLabels lines i →
      ((∃ span ∈ findAll settings lines, span.start = i) ↔
        ∃ j, j ≠ i ∧ LabelAt lines j name ∧ Reaches settings.shareEntryLabels lines j)) := by
  refine ⟨⟨?_, ?_⟩, fun span hspan i hstart => closed_iff_reaches hspan hstart, ?_⟩
  · intro hclosed i j name hi hj hreach
    obtain ⟨span, hspan, hstart⟩ := (exists_start_iff hi).mpr ⟨j, hj, hreach⟩
    exact (closed_iff_reaches hspan hstart).mp (hclosed span hspan)
  · intro hsame span hspan
    obtain ⟨i, hstart, hlabel, ⟨j, hj, hreach⟩, -⟩ := mem_findAll_iff.mp hspan
    exact (closed_iff_reaches hspan hstart).mpr (hsame i j span.label hlabel hj hreach)
  · intro i name hlabel hno
    rw [exists_start_iff hlabel]
    constructor
    · rintro ⟨j, hj, hreach⟩
      refine ⟨j, ?_, hj, hreach⟩
      rintro rfl
      exact hno hreach
    · rintro ⟨j, -, hj, hreach⟩
      exact ⟨j, hj, hreach⟩

/-- The second label line of this file reaches no return.  It starts a routine all the same, which
ends at the end of the file. -/
theorem repeated_label_not_closed :
    let lines := ["A:".toList, "    rts".toList, "A:".toList, "    nop".toList]
    LabelAt lines 2 "A" ∧ ¬ Reaches false lines 2 ∧
      findAll {} lines = [⟨"A", 0, 1⟩, ⟨"A", 2, 3⟩] ∧
      ¬ ∀ span ∈ findAll {} lines, Closed lines span := by
  intro lines
  have hplain (k : Nat) (hk : 2 < k) : ¬ ReturnAt lines k := by
    intro hret
    obtain rfl : k = 3 := by
      have : k < 4 := hret.lt_length
      omega
    obtain ⟨text, htext, hret⟩ := hret
    obtain rfl : text = "    nop".toList := (Option.some.inj htext).symm
    exact absurd hret (by decide)
  have hfind : findAll {} lines = [⟨"A", 0, 1⟩, ⟨"A", 2, 3⟩] := by decide
  refine ⟨⟨_, rfl, by decide⟩, ?_, hfind, ?_⟩
  · rintro ⟨k, hk, hret, -⟩
    exact hplain k hk hret
  · intro hclosed
    obtain ⟨hlt, k, hk, hret⟩ := hclosed ⟨"A", 2, 3⟩ (by rw [hfind]; simp)
    simp only at hlt hk
    exact hplain k (by omega) hret

end Span
end CalleeSaved
