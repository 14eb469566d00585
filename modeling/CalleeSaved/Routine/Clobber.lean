import CalleeSaved.Routine.Usage

/-!
# Clobbers

A line clobbers a register when it writes one that is preserved, and the routine saves that
register nowhere. Each such line is reported once, for the first such register that it writes.
-/

namespace CalleeSaved

/-- A line that clobbers a register. -/
structure Clobber where
  line : Int
  register : Register
  deriving DecidableEq, Repr

namespace Clobber

/-- The register that a line clobbers under a usage. -/
def register? (usage : Usage) (text : Text) : Option Register :=
  match Instruction.ofText? text with
  | none => none
  | some insn => insn.written.find? usage.isUnsafe

/-- The clobbers among the lines of a body that starts at the given line. -/
def findAll (usage : Usage) (line : Int) : List Text → List Clobber
  | [] => []
  | text :: rest =>
      ((register? usage text).map (⟨line, ·⟩)).toList ++ findAll usage (line + 1) rest

/-- The headline of a clobber. -/
def message (clobber : Clobber) : String :=
  "Register " ++ clobber.register.name ++ " modified without stack save"

end Clobber
end CalleeSaved
