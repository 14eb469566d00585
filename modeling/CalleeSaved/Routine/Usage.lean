import CalleeSaved.Source.Instruction

/-!
# Register usage

**Usage.**  What the lines of a body do to registers, taken together: the registers they touch,
modify and save.  The order of lines plays no part, so a register saved anywhere in the body is
saved.

**Summing up.**  `Usage.ofLines` sums up a body.  A usage can also be kept up to date step by step:
fed a line, cleared, or run over a body, which clears it first.
-/

namespace CalleeSaved

/-- The registers that lines touch, modify and save. -/
structure Usage where
  touched : RegisterSet := ∅
  modified : RegisterSet := ∅
  saved : RegisterSet := ∅
  deriving DecidableEq

namespace Usage

instance : EmptyCollection Usage :=
  ⟨{}⟩

instance : Union Usage :=
  ⟨fun u v => ⟨u.touched ∪ v.touched, u.modified ∪ v.modified, u.saved ∪ v.saved⟩⟩

/-- The register is preserved by convention, modified, and never saved. -/
def isUnsafe (usage : Usage) (r : Register) : Bool :=
  r.isPreserved && usage.modified.contains r && !usage.saved.contains r

/-- The usage of one instruction.  A save touches nothing. -/
def ofInstruction (insn : Instruction) : Usage :=
  if insn.isSave then ⟨∅, ∅, insn.saved⟩
  else ⟨RegisterSet.ofList (insn.referenced ++ insn.written), RegisterSet.ofList insn.written, ∅⟩

/-- The usage of one source line. -/
def ofLine (text : Text) : Usage :=
  ((Instruction.ofText? text).map ofInstruction).getD ∅

/-- The usage with a further line. -/
def feed (usage : Usage) (text : Text) : Usage :=
  usage ∪ ofLine text

/-- The usage of the lines of a body. -/
def ofLines (lines : List Text) : Usage :=
  lines.foldl feed ∅

/-- What can happen to a usage that is kept up to date. -/
inductive Step
  | feed (text : Text)
  | run (lines : List Text)
  | reset

/-- The usage with everything forgotten. -/
def clear (_ : Usage) : Usage :=
  ∅

/-- The usage after a step.  A run forgets what was there and takes its lines one by one. -/
def after (usage : Usage) : Step → Usage
  | .feed text => usage.feed text
  | .run lines => lines.foldl feed usage.clear
  | .reset => usage.clear

/-- A run sums up its lines, whatever was there before. -/
theorem after_run (usage : Usage) (lines : List Text) : usage.after (.run lines) = ofLines lines :=
  rfl

/-- The usage after some steps that start from nothing. -/
def afterAll (steps : List Step) : Usage :=
  steps.foldl after ∅

end Usage
end CalleeSaved
