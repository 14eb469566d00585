import CalleeSaved.Register.List
import CalleeSaved.Routine.Verdict

/-!
# Captions

Display text for verdicts and families.

**Captions.**  A routine is described by one line for each family with something to say.  The line
groups the registers by status; untouched registers are left out.

**Examples.**  For a family, the pair of bulk transfers that preserves its registers.
-/

namespace CalleeSaved
namespace Caption

/-- The statuses that a caption shows, in order. -/
def shown : List Status :=
  [.scratch, .saved, .clobbered]

/-- The word for a group of registers. -/
def groupLabel (emoji : Bool) : Status → String
  | .untouched => ""
  | .scratch => if emoji then "🟡Scratch" else "Scratch"
  | .saved => if emoji then "🟢Saved" else "Saved"
  | .clobbered => if emoji then "🔴UNSAFE" else "UNSAFE"

/-- The word at the start of a line. -/
def heading (emoji : Bool) : Family → String
  | .data => if emoji then "🧮 DATA" else "DATA"
  | .address => if emoji then "📍 ADDR" else "ADDR"

/-- The registers of a family with a status, as a group of a line. -/
def group? (emoji : Bool) (verdict : Verdict) (f : Family) (status : Status) : Option String :=
  match verdict.familyWith status f with
  | [] => none
  | registers =>
      some (groupLabel emoji status ++ ":" ++ ",".intercalate (registers.map Register.name))

/-- The line of a family. -/
def familyLine? (emoji : Bool) (verdict : Verdict) (f : Family) : Option String :=
  match shown.filterMap (group? emoji verdict f) with
  | [] => none
  | groups => some (heading emoji f ++ ": " ++ " ".intercalate groups)

/-- The line of a routine that uses no register. -/
def noneUsed : String :=
  "M68K Registers: none used"

/-- The lines that describe a verdict. -/
def lines (emoji : Bool) (verdict : Verdict) : List String :=
  match [Family.data, Family.address].filterMap (familyLine? emoji verdict) with
  | [] => [noneUsed]
  | families => families

/-- The preserved registers of a family. -/
def preserved (f : Family) : RegisterSet :=
  RegisterSet.ofList ((Register.ofFamily f).filter Register.isPreserved)

/-- The line that saves the preserved registers of a family. -/
def saveLine (f : Family) : Text :=
  "movem.l ".toList ++ RegisterList.format (preserved f) ++
    ",-(sp)  ; Save at function start".toList

/-- The line that restores the preserved registers of a family. -/
def restoreLine (f : Family) : Text :=
  "    movem.l (sp)+,".toList ++ RegisterList.format (preserved f) ++
    "  ; Restore before rts".toList

/-- The pair of lines that preserves the registers of a family, around a body. -/
def savePattern (f : Family) : String :=
  String.ofList (saveLine f) ++ "\n    ...\n" ++ String.ofList (restoreLine f)

end Caption
end CalleeSaved
