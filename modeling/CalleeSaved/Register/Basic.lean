/-!
# Tracked registers

The data registers D0 to D7 and the address registers A0 to A6.  A7 is the stack pointer, which
every routine restores by its nature, and is not tracked.

**Order.**  `Register.all` lists the registers in canonical order, data before address.

**Convention.**  D0, D1, A0 and A1 are scratch: a routine may change them.  All others are
preserved.
-/

namespace CalleeSaved

/-- The two register files. -/
inductive Family
  | data
  | address
  deriving DecidableEq, Repr

namespace Family

/-- The letter that register names of the family start with. -/
def letter : Family → Char
  | data => 'D'
  | address => 'A'

/-- The word for the family. -/
def label : Family → String
  | data => "data"
  | address => "address"

/-- The family with the given letter, in capitals. -/
def ofCapital? : Char → Option Family
  | 'D' => some data
  | 'A' => some address
  | _ => none

/-- The family with the given letter, in either case. -/
def ofLetter? : Char → Option Family
  | 'D' => some data
  | 'd' => some data
  | 'A' => some address
  | 'a' => some address
  | _ => none

end Family

/-- A tracked register. -/
inductive Register
  | d (number : Fin 8)
  | a (number : Fin 7)
  deriving DecidableEq, Repr

namespace Register

/-- Every tracked register, in canonical order. -/
def all : List Register :=
  (List.finRange 8).map d ++ (List.finRange 7).map a

/-- Every tracked register is listed. -/
theorem mem_all (r : Register) : r ∈ all := by
  cases r <;> simp [all, List.mem_finRange]

/-- The register file that holds the register. -/
def family : Register → Family
  | d _ => .data
  | a _ => .address

/-- The number in the register's name. -/
def number : Register → Nat
  | d n => n
  | a n => n

/-- The register's name. -/
def name (r : Register) : String :=
  String.ofList [r.family.letter, Nat.digitChar r.number]

/-- The register's name in small letters, as source text writes it. -/
def spelling (r : Register) : List Char :=
  [r.family.letter.toLower, Nat.digitChar r.number]

/-- Different registers have different names. -/
theorem name_inj {q r : Register} (h : q.name = r.name) : q = r := by
  have hdigit : ∀ m n : Fin 8, Nat.digitChar m = Nat.digitChar n → m = n := by decide
  obtain ⟨hletter, hrest⟩ := List.cons.inj (String.ofList_injective h)
  obtain ⟨hnumber, -⟩ := List.cons.inj hrest
  cases q with
  | d m =>
      cases r with
      | d n => rw [hdigit m n hnumber]
      | a n => simp [family, Family.letter] at hletter
  | a m =>
      cases r with
      | d n => simp [family, Family.letter] at hletter
      | a n => rw [Fin.castSucc_inj.mp (hdigit m.castSucc n.castSucc hnumber)]

/-- A table with an entry for each of some registers gives each its own. -/
theorem lookup_name {α : Type} (value : Register → α) {r : Register} {registers : List Register}
    (h : r ∈ registers) :
    (registers.map fun q => (q.name, value q)).lookup r.name = some (value r) := by
  induction registers with
  | nil => cases h
  | cons q rest ih =>
      by_cases hname : r.name = q.name
      · obtain rfl := name_inj hname
        simp
      · have hrest : r ∈ rest := (List.mem_cons.mp h).resolve_left fun hr => hname (hr ▸ rfl)
        simp [List.lookup_cons, beq_eq_false_iff_ne.mpr hname, ih hrest]

/-- The register with the given name, written in capitals. -/
def ofName? (s : String) : Option Register :=
  all.find? fun r => r.name == s

/-- Scratch registers need not be kept by a routine. -/
def isScratch (r : Register) : Bool :=
  r.number < 2

/-- Preserved registers must hold the same value after a routine as before it. -/
def isPreserved (r : Register) : Bool :=
  !r.isScratch

/-- The registers of a family, in canonical order. -/
def ofFamily (f : Family) : List Register :=
  all.filter fun r => r.family == f

end Register
end CalleeSaved
