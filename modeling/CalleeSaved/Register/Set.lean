import CalleeSaved.Register.Basic

/-!
# Sets of registers

A set of registers is a mask with one bit for each tracked register, in canonical order.

**View.**  Membership; two sets with the same members are equal (`RegisterSet.ext`).

**Results.**  One membership lemma for each operation, and `mem_toList` for the canonical listing.
-/

namespace CalleeSaved

/-- The bit of a register in a mask. -/
def Register.index : Register → Nat
  | .d n => n
  | .a n => 8 + n

theorem Register.index_lt (r : Register) : r.index < 15 := by
  cases r <;> simp only [index] <;> omega

theorem Register.index_inj {r s : Register} : r.index = s.index ↔ r = s := by
  cases r <;> cases s <;>
    simp only [index, Register.d.injEq, Register.a.injEq, Fin.ext_iff, reduceCtorEq, iff_false] <;>
      omega

theorem Register.exists_index {i : Nat} (h : i < 15) : ∃ r : Register, r.index = i := by
  by_cases h8 : i < 8
  · exact ⟨.d ⟨i, h8⟩, rfl⟩
  · exact ⟨.a ⟨i - 8, by omega⟩, by simp only [index]; omega⟩

/-- A set of registers. -/
structure RegisterSet where
  mask : BitVec 15
  deriving DecidableEq

namespace RegisterSet

/-- The register's bit is set. -/
def contains (s : RegisterSet) (r : Register) : Bool :=
  s.mask.getLsbD r.index

instance : Membership Register RegisterSet :=
  ⟨fun s r => s.contains r = true⟩

instance (r : Register) (s : RegisterSet) : Decidable (r ∈ s) :=
  inferInstanceAs (Decidable (s.contains r = true))

instance : EmptyCollection RegisterSet :=
  ⟨⟨0⟩⟩

instance : Inhabited RegisterSet :=
  ⟨∅⟩

instance : Union RegisterSet :=
  ⟨fun s t => ⟨s.mask ||| t.mask⟩⟩

instance : Singleton Register RegisterSet :=
  ⟨fun r => ⟨BitVec.twoPow 15 r.index⟩⟩

/-- The set of the registers of a list. -/
def ofList (rs : List Register) : RegisterSet :=
  rs.foldr (fun r s => {r} ∪ s) ∅

/-- The members in canonical order. -/
def toList (s : RegisterSet) : List Register :=
  Register.all.filter s.contains

/-- The number of members. -/
def size (s : RegisterSet) : Nat :=
  s.toList.length

theorem mem_iff_contains {r : Register} {s : RegisterSet} : r ∈ s ↔ s.contains r = true :=
  Iff.rfl

@[simp] theorem not_mem_empty (r : Register) : r ∉ (∅ : RegisterSet) := by
  change ¬ (0 : BitVec 15).getLsbD r.index = true
  simp

@[simp] theorem mem_union {r : Register} {s t : RegisterSet} : r ∈ s ∪ t ↔ r ∈ s ∨ r ∈ t := by
  change (s.mask ||| t.mask).getLsbD r.index = true ↔
    s.mask.getLsbD r.index = true ∨ t.mask.getLsbD r.index = true
  simp

@[simp] theorem mem_singleton {r q : Register} : r ∈ ({q} : RegisterSet) ↔ r = q := by
  change (BitVec.twoPow 15 q.index).getLsbD r.index = true ↔ r = q
  simp only [BitVec.getLsbD_twoPow, q.index_lt, decide_true, Bool.true_and, decide_eq_true_eq,
    Register.index_inj]
  exact eq_comm

@[simp] theorem mem_ofList {r : Register} {rs : List Register} : r ∈ ofList rs ↔ r ∈ rs := by
  induction rs with
  | nil => simp [ofList]
  | cons q rs ih =>
      have step : ofList (q :: rs) = {q} ∪ ofList rs := rfl
      simp [step, ih]

@[simp] theorem mem_toList {r : Register} {s : RegisterSet} : r ∈ s.toList ↔ r ∈ s := by
  simp [toList, Register.mem_all, mem_iff_contains]

/-- Sets with the same members are equal. -/
theorem ext {s t : RegisterSet} (h : ∀ r, r ∈ s ↔ r ∈ t) : s = t := by
  obtain ⟨s⟩ := s
  obtain ⟨t⟩ := t
  congr 1
  refine BitVec.eq_of_getLsbD_eq fun i hi => ?_
  obtain ⟨r, rfl⟩ := Register.exists_index hi
  exact Bool.eq_iff_iff.mpr (h r)

end RegisterSet

namespace Register

/-- The registers in canonical order, each once. -/
def sort (rs : List Register) : List Register :=
  (RegisterSet.ofList rs).toList

end Register
end CalleeSaved
