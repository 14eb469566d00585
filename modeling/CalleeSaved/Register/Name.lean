import CalleeSaved.Register.Set
import CalleeSaved.Text.Basic
import CalleeSaved.Text.Word

/-!
# Register names in source text

**Names.**  A register is written as D or A, in either case, and a digit from 0 to 7.
`RegisterName` keeps what is written, so A7 has a name although it is no tracked register.

**Search.**  `Register.tokens` finds the registers that a text names.  A name counts when it is a
word of its own; a dollar sign before it makes it a hexadecimal number.
-/

namespace CalleeSaved

/-- A register as it is written, the stack pointer A7 included. -/
structure RegisterName where
  family : Family
  number : Fin 8
  deriving DecidableEq, Repr

namespace RegisterName

/-- The digit of a register name. -/
def digit? (c : Char) : Option (Fin 8) :=
  if h : '0' ≤ c ∧ c.toNat - '0'.toNat < 8 then some ⟨c.toNat - '0'.toNat, h.2⟩ else none

/-- The name written by a letter and a digit. -/
def ofChars? (letter digit : Char) : Option RegisterName := do
  let family ← Family.ofLetter? letter
  let number ← digit? digit
  return ⟨family, number⟩

/-- The name that makes up a whole text. -/
def ofText? : Text → Option RegisterName
  | [letter, digit] => ofChars? letter digit
  | _ => none

/-- The tracked register of that name; A7 has none. -/
def register? : RegisterName → Option Register
  | ⟨.data, n⟩ => some (.d n)
  | ⟨.address, n⟩ => if h : n.val < 7 then some (.a ⟨n, h⟩) else none

/-- The name in capitals. -/
def toString (name : RegisterName) : String :=
  String.ofList [name.family.letter, Nat.digitChar name.number]

end RegisterName

namespace Register

/-- The tracked register that a token names, blanks around it ignored.  No other character has one
of the letters or digits of a name as its capital form, so ASCII letters decide. -/
def ofToken? (token : Text) : Option Register :=
  (RegisterName.ofText? token.trim).bind RegisterName.register?

/-- A character that cannot stand directly before a register name. -/
def joinsName : Option Char → Bool
  | none => false
  | some c => Text.isWordChar c || c == '$'

/-- The register name at the head of the text, given the character before it. -/
def nameAt? (before : Option Char) : Text → Option RegisterName
  | letter :: digit :: rest =>
      if joinsName before || Text.endsWord rest.head? then none
      else RegisterName.ofChars? letter digit
  | _ => none

/-- The register names in a text that follows the given character, in order.  The search goes on
behind a name that it finds, and else at the next character. -/
def namesAfter (before : Option Char) : Text → List RegisterName
  | letter :: digit :: rest =>
      match nameAt? before (letter :: digit :: rest) with
      | some name => name :: namesAfter (some digit) rest
      | none => namesAfter (some letter) (digit :: rest)
  | _ => []

/-- The tracked registers named in a text that follows the given character, in order. -/
def tokensAfter (before : Option Char) (text : Text) : List Register :=
  (namesAfter before text).filterMap RegisterName.register?

/-- The tracked registers named in a text, in order and with repetitions. -/
def tokens (text : Text) : List Register :=
  tokensAfter none text

end Register
end CalleeSaved
