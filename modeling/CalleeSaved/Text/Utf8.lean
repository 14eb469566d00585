import CalleeSaved.Text.Basic

/-!
# UTF-8

**Decoding.**  A machine reads one byte at a time.  A lead byte says how many continuation bytes
are owed and in which interval the next one must lie, so that overlong forms, surrogates and code
points past the last one are refused at their second byte.

**Replacement.**  What was read of a character when a byte is refused becomes one replacement
character, and the byte is read again as the start of the next one: each maximal part of a
character that cannot be completed is replaced once.

**Byte order mark.**  One mark at the start of a file is dropped.  A file that ends inside its mark
is empty.
-/

namespace CalleeSaved
namespace Utf8

/-- The character that stands for bytes that are no character. -/
def replacement : Char := '�'

/-- A character under way: the bits read so far, the number of continuation bytes owed, and the
interval in which the next of them must lie. -/
structure Pending where
  bits : Nat
  owed : Nat
  least : Nat
  most : Nat
  deriving DecidableEq, Repr

/-- What a byte starts: a whole character, a longer one, or nothing. -/
inductive Start
  | whole (c : Char)
  | longer (pending : Pending)
  | refused
  deriving DecidableEq, Repr

/-- The reading of a byte at the start of a character. -/
def start (byte : UInt8) : Start :=
  let b := byte.toNat
  if b < 0x80 then .whole (Char.ofNat b)
  else if b < 0xC2 then .refused
  else if b < 0xE0 then .longer ⟨b - 0xC0, 1, 0x80, 0xBF⟩
  else if b == 0xE0 then .longer ⟨0, 2, 0xA0, 0xBF⟩
  else if b == 0xED then .longer ⟨0xD, 2, 0x80, 0x9F⟩
  else if b < 0xF0 then .longer ⟨b - 0xE0, 2, 0x80, 0xBF⟩
  else if b == 0xF0 then .longer ⟨0, 3, 0x90, 0xBF⟩
  else if b < 0xF4 then .longer ⟨b - 0xF0, 3, 0x80, 0xBF⟩
  else if b == 0xF4 then .longer ⟨4, 3, 0x80, 0x8F⟩
  else .refused

/-- The byte continues the character under way. -/
def Pending.accepts (pending : Pending) (byte : UInt8) : Bool :=
  pending.least ≤ byte.toNat && byte.toNat ≤ pending.most

/-- The bits of the character under way with those of a continuation byte after them. -/
def Pending.push (pending : Pending) (byte : UInt8) : Nat :=
  pending.bits * 64 + (byte.toNat - 0x80)

mutual

/-- The characters of the bytes, read from between characters. -/
def decode : List UInt8 → Text
  | [] => []
  | byte :: rest =>
      match start byte with
      | .whole c => c :: decode rest
      | .longer pending => decodeRest pending rest
      | .refused => replacement :: decode rest

/-- The characters of the bytes, read inside a character. -/
def decodeRest (pending : Pending) : List UInt8 → Text
  | [] => [replacement]
  | byte :: rest =>
      if pending.accepts byte then
        if pending.owed == 1 then Char.ofNat (pending.push byte) :: decode rest
        else decodeRest ⟨pending.push byte, pending.owed - 1, 0x80, 0xBF⟩ rest
      else
        match start byte with
        | .whole c => replacement :: c :: decode rest
        | .longer next => replacement :: decodeRest next rest
        | .refused => replacement :: replacement :: decode rest

end

/-- The byte order mark. -/
def byteOrderMark : List UInt8 := [0xEF, 0xBB, 0xBF]

/-- The bytes of a file after its byte order mark, if it has one, whole or cut off by the end. -/
def dropMark (bytes : List UInt8) : List UInt8 :=
  if byteOrderMark.isPrefixOf bytes then bytes.drop byteOrderMark.length
  else if bytes.isPrefixOf byteOrderMark then []
  else bytes

/-- The text of a file. -/
def decodeFile (bytes : List UInt8) : Text :=
  decode (dropMark bytes)

/-- The bytes of a text. -/
def encode (text : Text) : List UInt8 :=
  text.flatMap String.utf8EncodeChar

end Utf8
end CalleeSaved
