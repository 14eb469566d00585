import CalleeSaved.Register.Name
import CalleeSaved.Text.Capital
import CalleeSaved.Text.Decimal
import CalleeSaved.Text.Quoted

/-!
# Register lists

The operand of a bulk transfer lists registers as in `d2-d7/a2`: entries between slashes, each a
register or a range of one family.  Spaces and tabs may surround slash and dash.

**Reading.**  `RegisterList.parse?` gives the entries, `RegisterList.registers` their union.  A
range may be written in either direction.  A range over two families stands for nothing, and so
does A7.

**Writing.**  `RegisterList.format` writes a set with one entry for each run of neighbours.

**Free ranges.**  `RegisterList.fromBounds` takes two arbitrary texts as bounds and says what is
wrong with them.
-/

namespace CalleeSaved

/-- The registers of a family with a number between the two given ones, in canonical order. -/
def Register.between (f : Family) (m n : Nat) : List Register :=
  Register.all.filter fun r => r.family == f && min m n ≤ r.number && r.number ≤ max m n

namespace RegisterList

/-- An entry of a register list. -/
inductive Entry
  | single (name : RegisterName)
  | range (first last : RegisterName)
  deriving DecidableEq, Repr

namespace Entry

/-- The registers that an entry stands for, in canonical order. -/
def registers : Entry → List Register
  | single name => name.register?.toList
  | range first last =>
      if first.family = last.family then Register.between first.family first.number last.number
      else []

/-- The bounds of a range over two families. -/
def crossing? : Entry → Option (RegisterName × RegisterName)
  | single _ => none
  | range first last => if first.family = last.family then none else some (first, last)

/-- The entry that makes up a whole text. -/
def ofText? (text : Text) : Option Entry :=
  match text.splitOn '-' with
  | [name] => (RegisterName.ofText? (Text.trimSpaces name)).map single
  | [first, last] => do
      let first ← RegisterName.ofText? (Text.trimSpaces first)
      let last ← RegisterName.ofText? (Text.trimSpaces last)
      return range first last
  | _ => none

end Entry

/-- The entries of a register list. -/
def entries? (text : Text) : Option (List Entry) :=
  (text.splitOn '/').mapM Entry.ofText?

/-- The entries of a register list, blanks around it ignored. -/
def parse? (text : Text) : Option (List Entry) :=
  entries? text.trim

/-- The registers of a list of entries. -/
def registers (entries : List Entry) : RegisterSet :=
  RegisterSet.ofList (entries.flatMap Entry.registers)

/-- The registers of a register list; a text that is none stands for no register. -/
def parse (text : Text) : RegisterSet :=
  registers ((parse? text).getD [])

/-- The second register follows the first in its family. -/
def follows (r q : Register) : Bool :=
  q.family == r.family && q.number == r.number + 1

/-- The longest runs of neighbours of a list, each by its first and its last register. -/
def runs : List Register → List (Register × Register)
  | [] => []
  | r :: rest =>
      match runs rest with
      | [] => [(r, r)]
      | (first, last) :: more =>
          if follows r first then (r, last) :: more else (r, r) :: (first, last) :: more

/-- A run as an entry of a list. -/
def formatRun (run : Register × Register) : Text :=
  if run.1 = run.2 then run.1.spelling else run.1.spelling ++ '-' :: run.2.spelling

/-- The set as a register list. -/
def format (s : RegisterSet) : Text :=
  ['/'].intercalate ((runs s.toList).map formatRun)

/-- What is wrong with the bounds of a range. -/
inductive RangeError
  | tooShort
  | unknownFamily (letter : Char)
  | notADigit (c : Char)
  deriving DecidableEq, Repr

/-- The wording of a range error. -/
def RangeError.message : RangeError → String
  | tooShort => "string index out of range"
  | unknownFamily letter => Text.quoted [letter] ++ " is not a valid RegisterFamily"
  | notADigit c => "invalid literal for int() with base 10: " ++ Text.quoted [c]

/-- The character of a bound at a position. -/
def boundChar (bound : Text) (i : Nat) : Except RangeError Char :=
  match bound[i]? with
  | some c => .ok c
  | none => .error .tooShort

/-- The number of a bound: a digit of any script in second place. -/
def boundNumber (bound : Text) : Except RangeError Nat := do
  let c ← boundChar bound 1
  match Text.decimalValue? c with
  | some n => return n
  | none => throw (.notADigit c)

/-- The registers between two bounds in capitals.  Only the first two characters of a bound count,
and bounds that start with different letters enclose nothing. -/
def fromCapitalBounds (first last : Text) : Except RangeError (List Register) := do
  let letter ← boundChar first 0
  let lastLetter ← boundChar last 0
  if letter ≠ lastLetter then
    return []
  match Family.ofCapital? letter with
  | none => throw (.unknownFamily letter)
  | some family => return Register.between family (← boundNumber first) (← boundNumber last)

/-- The registers between two bounds, which may be written in either case. -/
def fromBounds (first last : Text) : Except RangeError (List Register) :=
  fromCapitalBounds (Text.capitalize first) (Text.capitalize last)

end RegisterList
end CalleeSaved
