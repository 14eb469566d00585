import CalleeSaved.Register.Name

/-!
# Operand fields

**Operands.**  Commas outside parentheses separate the operands of a field.  A closing parenthesis
without a partner closes nothing.  The last operand is the destination.

**Addressing.**  A register inside parentheses is part of an address, so the destination writes
the registers that it names outside parentheses.  A push or pop through the stack pointer writes
none.
-/

namespace CalleeSaved
namespace Operand

/-- The parenthesis depth after a character. -/
def depthAfter (depth : Nat) (c : Char) : Nat :=
  if c == '(' then depth + 1
  else if c == ')' then depth - 1
  else depth

/-- The pieces of a text at the commas of depth zero, read at the given depth. -/
def piecesAt (depth : Nat) : Text → List Text
  | [] => [[]]
  | c :: rest =>
      if c == ',' && depth == 0 then [] :: piecesAt depth rest
      else
        match piecesAt (depthAfter depth c) rest with
        | [] => [[c]]
        | piece :: more => (c :: piece) :: more

/-- The operands of a field; a field of blanks has none. -/
def split (field : Text) : List Text :=
  if field.allBlank then [] else (piecesAt 0 field).map Text.trim

/-- The last operand, unless it is empty. -/
def destination? (operands : List Text) : Option Text :=
  operands.getLast?.filter fun operand => !operand.isEmpty

/-- The text with every parenthesised part blanked out, read at the given depth. -/
def outsideAt (depth : Nat) : Text → Text
  | [] => []
  | c :: rest =>
      let shown := if c == '(' || depth != 0 then ' ' else c
      shown :: outsideAt (depthAfter depth c) rest

/-- The text with every parenthesised part blanked out. -/
def outside (operand : Text) : Text :=
  outsideAt 0 operand

/-- The two characters name the stack pointer.  The long s is a form of the letter s. -/
def isStackPointer (c d : Char) : Bool :=
  ((c == 's' || c == 'S' || c == 'ſ') && (d == 'p' || d == 'P')) ||
    ((c == 'a' || c == 'A') && d == '7')

/-- The rest of a text after the stack pointer and the characters of a class around it. -/
def afterStackPointer? (skipped : Char → Bool) (text : Text) : Option Text :=
  match text.dropWhile skipped with
  | c :: d :: rest => if isStackPointer c d then some (rest.dropWhile skipped) else none
  | _ => none

/-- A push or a pop through the stack pointer stands at the head of the text. -/
def adjustsAtHead : Text → Bool
  | '-' :: '(' :: rest =>
      (afterStackPointer? Text.isBlank rest).any fun after => [')'].isPrefixOf after
  | '(' :: rest =>
      (afterStackPointer? Text.isBlank rest).any fun after => [')', '+'].isPrefixOf after
  | _ => false

/-- A push or a pop through the stack pointer stands somewhere in the text. -/
def adjustsStack : Text → Bool
  | [] => false
  | c :: rest => adjustsAtHead (c :: rest) || adjustsStack rest

/-- The registers that a destination operand writes, in order. -/
def written (destination : Text) : List Register :=
  if adjustsStack destination then [] else Register.tokens (outside destination)

end Operand
end CalleeSaved
