import CalleeSaved.Source.Line
import CalleeSaved.Source.Transfer

/-!
# Instructions

What an instruction line does to the tracked registers.

**Bulk transfers.**  `movem` with a size of long or word that pushes a register list saves it; one
that pops a register list writes it.

**Assignments.**  The mnemonics of `writingMnemonics` write the registers of their destination
operand.  No other instruction writes a register, even when its last operand is one.

**Effect.**  `Instruction.effect` sums up the action in one word.
-/

namespace CalleeSaved

/-- What an instruction does to registers: it saves a set, restores a set, or assigns to registers
in order, possibly to none. -/
inductive Action
  | save (registers : RegisterSet)
  | restore (registers : RegisterSet)
  | assign (registers : List Register)
  deriving DecidableEq

/-- The effect of an instruction in one word. -/
inductive Effect
  | none
  | reads
  | writesOne
  | writesSet
  | savesSet
  deriving DecidableEq, Repr

/-- The name of an effect. -/
def Effect.name : Effect → String
  | none => "no-effect"
  | reads => "reads-only"
  | writesOne => "writes-register"
  | writesSet => "writes-register-set"
  | savesSet => "saves-register-set"

namespace Statement

/-- The mnemonics whose destination operand is written. -/
def writingMnemonics : List String :=
  ["move", "movea", "lea", "add", "sub", "mulu", "muls", "divu", "divs", "and", "or", "eor", "not",
    "neg", "clr", "ext", "swap", "exg", "asl", "asr", "lsl", "lsr", "rol", "ror", "addq", "subq",
    "adda", "suba", "addi", "subi", "andi", "ori", "eori", "link", "unlk"]

/-- The sizes of a bulk transfer. -/
def transferSizes : List String :=
  ["l", "w"]

/-- The bulk transfer of a statement. -/
def transfer? (statement : Statement) : Option Transfer :=
  if statement.mnemonic == "movem" && statement.size.any transferSizes.contains then
    Transfer.parse? statement.operands
  else none

/-- The registers that the destination operand writes. -/
def assigned (statement : Statement) : List Register :=
  if writingMnemonics.contains statement.mnemonic then
    ((Operand.destination? (Operand.split statement.operands)).map Operand.written).getD []
  else []

/-- What a statement does to registers. -/
def action (statement : Statement) : Action :=
  match statement.transfer? with
  | some (.save entries) => .save (RegisterList.registers entries)
  | some (.restore entries) => .restore (RegisterList.registers entries)
  | none => .assign statement.assigned

end Statement

/-- An instruction line with what it does. -/
structure Instruction where
  statement : Statement
  action : Action
  deriving DecidableEq

namespace Instruction

/-- The instruction of a line. -/
def ofLine? : Line → Option Instruction
  | .instruction statement => some ⟨statement, statement.action⟩
  | _ => none

/-- The instruction of a source line. -/
def ofText? (text : Text) : Option Instruction :=
  ofLine? (Line.ofText text)

/-- The registers named in the operand field, in order. -/
def referenced (insn : Instruction) : List Register :=
  Register.tokens insn.statement.operands

/-- The registers written, in order. -/
def written (insn : Instruction) : List Register :=
  match insn.action with
  | .save _ => []
  | .restore registers => registers.toList
  | .assign registers => registers

/-- The registers saved. -/
def saved (insn : Instruction) : RegisterSet :=
  match insn.action with
  | .save registers => registers
  | _ => ∅

/-- The instruction saves registers on the stack. -/
def isSave (insn : Instruction) : Bool :=
  match insn.action with
  | .save _ => true
  | _ => false

/-- The instruction restores registers from the stack. -/
def isRestore (insn : Instruction) : Bool :=
  match insn.action with
  | .restore _ => true
  | _ => false

/-- The effect of the instruction in one word. -/
def effect (insn : Instruction) : Effect :=
  match insn.action with
  | .save _ => .savesSet
  | .restore _ => .writesSet
  | .assign [] => if insn.referenced.isEmpty then .none else .reads
  | .assign [_] => .writesOne
  | .assign _ => .writesSet

/-- The register of an instruction that writes exactly one by assignment. -/
def target? (insn : Instruction) : Option Register :=
  if insn.effect = .writesOne then insn.written[0]? else none

end Instruction
end CalleeSaved
