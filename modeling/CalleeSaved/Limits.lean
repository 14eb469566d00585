/-!
# Limits of a machine

A machine cannot write every number and cannot build every text.  What it can do is not known to the
tool, so that the limits are a parameter of everything that they can stop.

**Numbers.**  A number can be written when it has no more digits than the machine writes.

**Repetition.**  A character can be repeated as often as the machine can count, if there is room for
the text.
-/

namespace CalleeSaved

/-- What a machine can build. -/
structure Limits where
  /-- The greatest number of repetitions that can be counted. -/
  count : Nat
  /-- The length of the longest text that there is room for. -/
  room : Nat
  /-- The greatest number of digits that are written, if there is one. -/
  digits : Option Nat
  deriving DecidableEq, Repr

/-- A number has more digits than are written. -/
structure NumberError where
  digits : Nat
  deriving DecidableEq, Repr

/-- The wording of a number error. -/
def NumberError.message (error : NumberError) : String :=
  "Exceeds the limit (" ++ toString error.digits ++ " digits) for integer string conversion; " ++
    "use sys.set_int_max_str_digits() to increase the limit"

namespace Limits

/-- The number can be written. -/
def writes (limits : Limits) (n : Int) : Bool :=
  limits.digits.all fun most => (Nat.toDigits 10 n.natAbs).length ≤ most

/-- The error for a number that cannot be written. -/
def numberError (limits : Limits) : NumberError :=
  ⟨limits.digits.getD 0⟩

/-- The number in digits. -/
def number (limits : Limits) (n : Int) : Except NumberError String :=
  if limits.writes n then .ok (toString n) else .error limits.numberError

/-- The length of the longest text of one repeated character. -/
def width (limits : Limits) : Nat :=
  min limits.count limits.room

end Limits
end CalleeSaved
