import CalleeSaved.Proofs.Register.ListGrammar
import CalleeSaved.Proofs.Register.Tokens

/-!
# Writing register lists

A set of registers is written as a list with one entry for each run of neighbours.  The writer knows
nothing of the grammar that the reader goes by, so this module compares what is written with the
grammar, and what it stands for with the set.

**Runs.**  `InRun` says which registers a run covers.  `runs_spec`: the runs of any list of
registers cover the registers of the list and no others.

**Text.**  `listText_format`: what is written for a set that is not empty is a list by the grammar,
with the runs as its entries.

**Results.**  `registers_runs`: the entries stand for the set.  `parse_format`: reading gives the
set back.
-/

namespace CalleeSaved

open Text

namespace Register

theorem number_lt
    (r : Register) :
    r.number < 8 := by
  cases r with
  | d n =>
      exact n.isLt
  | a n =>
      exact Nat.lt_succ_of_lt n.isLt

/-- A register is determined by its family and its number. -/
theorem eq_iff
    {q r : Register} :
    q = r ↔ q.family = r.family ∧ q.number = r.number := by
  cases q <;> cases r <;> simp [family, number, Fin.ext_iff]

/-- The name that a register is written by. -/
def toName (r : Register) : RegisterName :=
  ⟨r.family, ⟨r.number, r.number_lt⟩⟩

theorem token_spelling
    (r : Register) :
    RegisterName.Token r.spelling r.toName := by
  refine ⟨r.family.letter.toLower, rfl, ?_⟩
  cases r with
  | d n =>
      exact Or.inr rfl
  | a n =>
      exact Or.inr rfl

end Register

namespace RegisterList

section Runs

/-- The register lies between the bounds of the run. -/
def InRun (run : Register × Register) (r : Register) : Prop :=
  r.family = run.1.family ∧ run.1.number ≤ r.number ∧ r.number ≤ run.2.number

/-- The bounds of the run belong to one family and are in order. -/
def Ascends (run : Register × Register) : Prop :=
  run.1.family = run.2.family ∧ run.1.number ≤ run.2.number

theorem inRun_self_iff
    {q r : Register} :
    InRun (q, q) r ↔ r = q := by
  simp only [InRun, Register.eq_iff]
  exact and_congr_right fun _ => by omega

theorem follows_iff
    {q r : Register} :
    follows q r = true ↔ r.family = q.family ∧ r.number = q.number + 1 := by
  simp [follows]

/-- A run that starts one register earlier covers one register more. -/
theorem inRun_cons_iff
    {q first last r : Register}
    (hfollows : follows q first = true)
    (hrun : Ascends (first, last)) :
    InRun (q, last) r ↔ r = q ∨ InRun (first, last) r := by
  obtain ⟨hfamily, hnumber⟩ := follows_iff.mp hfollows
  obtain ⟨-, horder⟩ := hrun
  simp only [InRun, Register.eq_iff, hfamily] at horder ⊢
  rw [← and_or_left]
  exact and_congr_right fun _ => by omega

/-- Every run ascends, and the runs of a list cover the registers of the list and no others. -/
theorem runs_spec
    (rs : List Register) :
    (∀ run ∈ runs rs, Ascends run) ∧ ∀ r, (∃ run ∈ runs rs, InRun run r) ↔ r ∈ rs := by
  induction rs with
  | nil =>
      simp [runs]
  | cons q rest ih =>
      obtain ⟨hascends, hcover⟩ := ih
      simp only [List.mem_cons, ← hcover]
      rw [runs]
      cases hruns : runs rest with
      | nil =>
          simp [inRun_self_iff, Ascends]
      | cons run more =>
          obtain ⟨first, last⟩ := run
          rw [hruns] at hascends
          obtain ⟨hrun, hmore⟩ := List.forall_mem_cons.mp hascends
          by_cases hfollows : follows q first = true
          · obtain ⟨hfamily, hnumber⟩ := follows_iff.mp hfollows
            obtain ⟨hsame, horder⟩ := hrun
            have hlonger : Ascends (q, last) := by
              simp only [Ascends] at hsame horder ⊢
              exact ⟨hfamily.symm.trans hsame, by omega⟩
            simp only [hfollows, if_true, List.mem_cons, forall_eq_or_imp, exists_eq_or_imp,
              inRun_cons_iff hfollows ⟨hsame, horder⟩, or_assoc, implies_true, and_true]
            exact ⟨hlonger, hmore⟩
          · have hsingle : Ascends (q, q) := ⟨rfl, Nat.le_refl _⟩
            simp only [if_neg hfollows, List.mem_cons, forall_eq_or_imp, exists_eq_or_imp,
              inRun_self_iff, implies_true, and_true]
            exact ⟨hsingle, hrun, hmore⟩

theorem runs_ne_nil
    {rs : List Register}
    (h : rs ≠ []) :
    runs rs ≠ [] := by
  obtain ⟨r, hr⟩ := List.exists_mem_of_ne_nil rs h
  obtain ⟨run, hrun, -⟩ := ((runs_spec rs).2 r).mpr hr
  exact List.ne_nil_of_mem hrun

end Runs

section Entries

/-- The entry that a run is written as. -/
def Entry.ofRun (run : Register × Register) : Entry :=
  if run.1 = run.2 then .single run.1.toName else .range run.1.toName run.2.toName

theorem entryText_formatRun
    (run : Register × Register) :
    EntryText (formatRun run) (Entry.ofRun run) := by
  unfold formatRun Entry.ofRun
  split
  · exact .single run.1.token_spelling
  · simpa using
      EntryText.range run.1.token_spelling spaces_nil spaces_nil run.2.token_spelling

theorem Entry.denotes_ofRun_iff
    {run : Register × Register}
    {r : Register}
    (h : Ascends run) :
    (Entry.ofRun run).Denotes r ↔ InRun run r := by
  obtain ⟨first, last⟩ := run
  obtain ⟨hfamily, horder⟩ := h
  simp only at hfamily horder
  unfold Entry.ofRun
  split
  · next heq =>
      obtain rfl : first = last := heq
      rw [inRun_self_iff, Register.eq_iff]
      rfl
  · have hbounds :
        (first.number ≤ r.number ∧ r.number ≤ last.number) ∨
            (last.number ≤ r.number ∧ r.number ≤ first.number) ↔
          first.number ≤ r.number ∧ r.number ≤ last.number := by
      omega
    change
      first.family = last.family ∧ r.family = first.family ∧
          ((first.number ≤ r.number ∧ r.number ≤ last.number) ∨
            (last.number ≤ r.number ∧ r.number ≤ first.number)) ↔
        InRun (first, last) r
    simp only [InRun, hbounds, hfamily, true_and]

/-- The runs of a list of registers, as entries, stand for the registers of the list. -/
theorem registers_runs
    (rs : List Register) :
    registers ((runs rs).map Entry.ofRun) = RegisterSet.ofList rs := by
  obtain ⟨hascends, hcover⟩ := runs_spec rs
  refine RegisterSet.ext fun r => ?_
  rw [mem_registers_iff, RegisterSet.mem_ofList, ← hcover]
  constructor
  · rintro ⟨_, hentry, hdenotes⟩
    obtain ⟨run, hrun, rfl⟩ := List.mem_map.mp hentry
    exact ⟨run, hrun, (Entry.denotes_ofRun_iff (hascends run hrun)).mp hdenotes⟩
  · rintro ⟨run, hrun, hin⟩
    exact ⟨_, List.mem_map_of_mem hrun, (Entry.denotes_ofRun_iff (hascends run hrun)).mpr hin⟩

end Entries

section Lists

theorem listText_intercalate
    (run : Register × Register)
    (more : List (Register × Register)) :
    ListText (['/'].intercalate ((run :: more).map formatRun)) ((run :: more).map Entry.ofRun) := by
  induction more generalizing run with
  | nil =>
      simpa using ListText.last (entryText_formatRun run)
  | cons next more ih =>
      simpa using ListText.more (entryText_formatRun run) spaces_nil spaces_nil (ih next)

/-- What is written for a set that is not empty is a list by the grammar. -/
theorem listText_format
    {s : RegisterSet}
    (h : s ≠ ∅) :
    ListText (format s) ((runs s.toList).map Entry.ofRun) := by
  have hne : s.toList ≠ [] := by
    intro hnil
    refine h (RegisterSet.ext fun r => ?_)
    rw [← RegisterSet.mem_toList, hnil]
    simp
  obtain ⟨run, more, hruns⟩ := List.exists_cons_of_ne_nil (runs_ne_nil hne)
  rw [format, hruns]
  exact listText_intercalate run more

theorem registers_format
    (s : RegisterSet) :
    registers ((runs s.toList).map Entry.ofRun) = s := by
  rw [registers_runs]
  exact RegisterSet.ext fun r => by simp

end Lists

end RegisterList

theorem Edged.stops
    {text : Text}
    (h : Edged text) :
    Stops isBlank text ∧ Stops isBlank text.reverse := by
  obtain ⟨⟨c, hc, hcn⟩, d, hd, hdn⟩ := h
  constructor
  · intro e he
    obtain rfl := Option.some.inj (hc.symm.trans he)
    exact isBlank_of_isAlphanum hcn
  · intro e he
    rw [List.head?_reverse] at he
    obtain rfl := Option.some.inj (hd.symm.trans he)
    exact isBlank_of_isAlphanum hdn

namespace RegisterList

/-- A written list stands for the registers of its entries. -/
theorem ListText.parse_eq
    {text : Text}
    {entries : List Entry}
    (h : ListText text entries) :
    parse text = registers entries := by
  obtain ⟨hstart, hend⟩ := h.edged.stops
  rw [← trim_eq_self hstart hend] at h
  rw [parse, parse?, entries?_trim_iff.mpr h, Option.getD_some]

/-- Reading what is written for a set gives the set back. -/
theorem parse_format
    (s : RegisterSet) :
    parse (format s) = s := by
  by_cases hempty : s = ∅
  · subst hempty
    decide
  · rw [(listText_format hempty).parse_eq]
    exact registers_format s

end RegisterList

end CalleeSaved
