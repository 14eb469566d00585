import CalleeSaved.Limits
import CalleeSaved.Text.Script

/-!
# JSON documents

The documents that the tool writes: integers, strings, arrays, and objects whose members keep
their order.

**Strings.**  Only printable ASCII stands for itself.  Quote, backslash and five controls have
short escapes, every other character is written in UTF-16 units of four hexadecimal digits, and so is
a byte that belongs to no character.

**Layouts.**  `compact` is one line.  `pretty` puts every item on a line of its own, indented by
two columns a level; an empty container stays closed.

**Limits.**  A document with a number that cannot be written cannot be written at all.
-/

namespace CalleeSaved

/-- A JSON document. -/
inductive Json
  | num (n : Int)
  | str (s : Script)
  | arr (items : List Json)
  | obj (members : List (String × Json))

namespace Json

/-- One UTF-16 unit as an escape. -/
def unit (n : Nat) : String :=
  "\\u" ++ Text.hex 4 n

/-- A character inside a JSON string. -/
def escapeChar (c : Char) : String :=
  if c == '"' then "\\\""
  else if c == '\\' then "\\\\"
  else if c == '\n' then "\\n"
  else if c == '\r' then "\\r"
  else if c == '\t' then "\\t"
  else if c.toNat == 0x08 then "\\b"
  else if c.toNat == 0x0C then "\\f"
  else if 0x20 ≤ c.toNat && c.toNat < 0x7F then String.singleton c
  else if c.toNat < 0x10000 then unit c.toNat
  else
    let offset := c.toNat - 0x10000
    unit (0xD800 + offset / 0x400) ++ unit (0xDC00 + offset % 0x400)

/-- A glyph inside a JSON string. -/
def escape : Glyph → String
  | .char c => escapeChar c
  | .byte offset => unit (0xDC80 + offset)

/-- A JSON string. -/
def quote (s : Script) : String :=
  "\"" ++ String.join (s.map escape) ++ "\""

mutual

/-- The document on one line. -/
def compact : Json → String
  | num n => toString n
  | str s => quote s
  | arr items => "[" ++ ", ".intercalate (compactItems items) ++ "]"
  | obj members => "\x7b" ++ ", ".intercalate (compactMembers members) ++ "\x7d"

/-- The items of an array, each on one line. -/
def compactItems : List Json → List String
  | [] => []
  | item :: rest => item.compact :: compactItems rest

/-- The members of an object, each on one line. -/
def compactMembers : List (String × Json) → List String
  | [] => []
  | (name, value) :: rest => (quote name ++ ": " ++ value.compact) :: compactMembers rest

end

/-- A container with one item a line at the given depth. -/
def block (opening closing : String) (depth : Nat) (items : List String) : String :=
  if items.isEmpty then opening ++ closing
  else
    let line := "\n" ++ String.ofList (List.replicate (2 * depth) ' ')
    let inner := "\n" ++ String.ofList (List.replicate (2 * depth + 2) ' ')
    opening ++ inner ++ ("," ++ inner).intercalate items ++ line ++ closing

mutual

/-- The document with one item a line, as it stands at the given depth. -/
def prettyAt (depth : Nat) : Json → String
  | num n => toString n
  | str s => quote s
  | arr items => block "[" "]" depth (prettyItems (depth + 1) items)
  | obj members => block "\x7b" "\x7d" depth (prettyMembers (depth + 1) members)

/-- The items of an array at the given depth. -/
def prettyItems (depth : Nat) : List Json → List String
  | [] => []
  | item :: rest => item.prettyAt depth :: prettyItems depth rest

/-- The members of an object at the given depth. -/
def prettyMembers (depth : Nat) : List (String × Json) → List String
  | [] => []
  | (name, value) :: rest =>
      (quote name ++ ": " ++ value.prettyAt depth) :: prettyMembers depth rest

end

/-- The document with one item a line. -/
def pretty (document : Json) : String :=
  document.prettyAt 0

mutual

/-- The numbers in a document. -/
def numbers : Json → List Int
  | num n => [n]
  | str _ => []
  | arr items => numbersOfItems items
  | obj members => numbersOfMembers members

/-- The numbers in the items of an array. -/
def numbersOfItems : List Json → List Int
  | [] => []
  | item :: rest => item.numbers ++ numbersOfItems rest

/-- The numbers in the members of an object. -/
def numbersOfMembers : List (String × Json) → List Int
  | [] => []
  | (_, value) :: rest => value.numbers ++ numbersOfMembers rest

end

/-- The document in a layout, if all its numbers can be written. -/
def write (limits : Limits) (layout : Json → String) (document : Json) :
    Except NumberError String :=
  if document.numbers.all limits.writes then .ok (layout document)
  else .error limits.numberError

end Json
end CalleeSaved
