import CalleeSaved.Routine.Usage

/-!
# Verdicts

**Status.**  Each register has one status in a routine.  A register that is not touched, or
preserved and only read, is untouched; a touched scratch register is scratch; a touched preserved
register is saved if the routine saves it, and otherwise unsafe if the routine modifies it.

**Verdict.**  A status for every register, with the usage that it was judged by.  A verdict is made
from a table, which has to name every register and nothing else.  `ofTable_map`: the table
of a usage does.
-/

namespace CalleeSaved

/-- The status of a register in a routine. -/
inductive Status
  | untouched
  | scratch
  | saved
  | clobbered
  deriving DecidableEq, Repr

namespace Status

/-- Every status. -/
def all : List Status :=
  [untouched, scratch, saved, clobbered]

/-- The name of a status. -/
def name : Status → String
  | untouched => "untouched"
  | scratch => "scratch"
  | saved => "saved"
  | clobbered => "unsafe"

/-- The status with the given name. -/
def ofName? (s : String) : Option Status :=
  all.find? fun status => status.name == s

end Status

/-- The status of a register under a usage. -/
def Usage.status (usage : Usage) (r : Register) : Status :=
  if !usage.touched.contains r then .untouched
  else if r.isScratch then .scratch
  else if usage.saved.contains r then .saved
  else if usage.modified.contains r then .clobbered
  else .untouched

/-- A status for every register, and the usage that it was judged by. -/
structure Verdict where
  status : Register → Status
  usage : Usage

namespace Verdict

/-- A table that does not name every register, or that names something else as well. -/
structure CoverageError where
  missing : List Register
  deriving DecidableEq, Repr

/-- The wording of a coverage error. -/
def CoverageError.message (error : CoverageError) : String :=
  let items := error.missing.map fun r => "<Register." ++ r.name ++ ": '" ++ r.name ++ "'>"
  "status map must cover all registers; missing [" ++ ", ".intercalate items ++ "]"

/-- The verdict given by a table of distinct names, and the usage that it was judged by. -/
def ofTable (table : List (String × Status)) (usage : Usage) : Except CoverageError Verdict :=
  let missing := Register.all.filter fun r => (table.lookup r.name).isNone
  if missing.isEmpty && table.length == Register.all.length then
    .ok ⟨fun r => (table.lookup r.name).getD .untouched, usage⟩
  else .error ⟨missing⟩

/-- A table with a status for every register covers the registers. -/
theorem ofTable_map (status : Register → Status) (usage : Usage) :
    ofTable (Register.all.map fun r => (r.name, status r)) usage = .ok ⟨status, usage⟩ := by
  have hlookup (r : Register) :
      (Register.all.map fun q => (q.name, status q)).lookup r.name = some (status r) :=
    Register.lookup_name status (Register.mem_all r)
  simp [ofTable, hlookup]

/-- The table of a usage, in canonical order. -/
def usageTable (usage : Usage) : List (String × Status) :=
  Register.all.map fun r => (r.name, usage.status r)

theorem isSome_ofTable (usage : Usage) :
    (ofTable (usageTable usage) usage).toOption.isSome = true := by
  rw [usageTable, ofTable_map]
  rfl

/-- The verdict on a usage. -/
def ofUsage (usage : Usage) : Verdict :=
  (ofTable (usageTable usage) usage).toOption.get (isSome_ofTable usage)

theorem ofUsage_eq (usage : Usage) : ofUsage usage = ⟨usage.status, usage⟩ := by
  simp only [ofUsage, usageTable, ofTable_map]
  rfl

/-- The verdict on the body of a routine. -/
def ofBody (lines : List Text) : Verdict :=
  ofUsage (Usage.ofLines lines)

theorem status_ofBody (lines : List Text) :
    (ofBody lines).status = (Usage.ofLines lines).status := by
  rw [ofBody, ofUsage_eq]

theorem usage_ofBody (lines : List Text) : (ofBody lines).usage = Usage.ofLines lines := by
  rw [ofBody, ofUsage_eq]

/-- The registers with a status, in canonical order. -/
def registersWith (verdict : Verdict) (status : Status) : List Register :=
  Register.all.filter fun r => verdict.status r == status

/-- The registers of a family with a status, in canonical order. -/
def familyWith (verdict : Verdict) (status : Status) (f : Family) : List Register :=
  Register.all.filter fun r => verdict.status r == status && r.family == f

/-- The unsafe registers, in canonical order. -/
def clobbered (verdict : Verdict) : List Register :=
  verdict.registersWith .clobbered

/-- No register is unsafe. -/
def isClean (verdict : Verdict) : Bool :=
  verdict.clobbered.isEmpty

/-- The verdict as a table in canonical order. -/
def table (verdict : Verdict) : List (String × Status) :=
  Register.all.map fun r => (r.name, verdict.status r)

/-- The verdict on one line. -/
def describe (verdict : Verdict) : String :=
  let entries := verdict.table.map fun entry => entry.1 ++ "=" ++ entry.2.name
  "RegisterAnalysisResult(" ++ ", ".intercalate entries ++ ")"

end Verdict
end CalleeSaved
