import CalleeSaved.Register.List
import CalleeSaved.Source.Operand

/-!
# Bulk transfers

A routine saves registers by moving a register list to the stack, and restores them by moving it
back: `d2-d7,-(sp)` and `(sp)+,d2-d7`.  Spaces and tabs may surround the comma and the stack
pointer.
-/

namespace CalleeSaved

/-- The operand field of a bulk transfer over the stack. -/
inductive Transfer
  | save (entries : List RegisterList.Entry)
  | restore (entries : List RegisterList.Entry)
  deriving DecidableEq, Repr

namespace Transfer

/-- The operand pushes onto the stack. -/
def isPush : Text → Bool
  | '-' :: '(' :: rest => Operand.afterStackPointer? Text.isSpace rest == some [')']
  | _ => false

/-- The operand pops from the stack. -/
def isPop : Text → Bool
  | '(' :: rest => Operand.afterStackPointer? Text.isSpace rest == some [')', '+']
  | _ => false

/-- The transfer that an operand field describes, blanks around it ignored. -/
def parse? (field : Text) : Option Transfer :=
  match field.trim.splitOn ',' with
  | [source, target] =>
      if isPush (Text.trimSpaces target) then (RegisterList.entries? source).map save
      else if isPop (Text.trimSpaces source) then (RegisterList.entries? target).map restore
      else none
  | _ => none

/-- The listed entries. -/
def entries : Transfer → List RegisterList.Entry
  | save entries => entries
  | restore entries => entries

/-- The listed registers. -/
def registers (transfer : Transfer) : RegisterSet :=
  RegisterList.registers transfer.entries

end Transfer
end CalleeSaved
