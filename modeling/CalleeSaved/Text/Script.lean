import CalleeSaved.Text.Quoted
import CalleeSaved.Text.Utf8

/-!
# Scripts

A file system names files by bytes, and the bytes of a name need not spell a text.  A script is a
text in which such bytes may stand.  The names of files are scripts, and so is every output that
shows one.

**Forms.**  Logs write a byte that belongs to no character as an escape (`escaped`), and so do quotes
(`quoted`).

**Encoding.**  UTF-8 has no place for such a byte, so that a script that holds one is refused
(`refusal?`).
-/

namespace CalleeSaved

/-- A character, or a byte beyond ASCII that belongs to no character. -/
inductive Glyph
  | char (c : Char)
  | byte (offset : Fin 128)
  deriving DecidableEq, Repr

namespace Glyph

/-- The bytes of a glyph. -/
def bytes : Glyph → List UInt8
  | char c => String.utf8EncodeChar c
  | byte offset => [UInt8.ofNat (0x80 + offset)]

/-- The character of a glyph that is one. -/
def char? : Glyph → Option Char
  | char c => some c
  | byte _ => none

/-- The escape of a byte. -/
def escape (offset : Fin 128) : String :=
  "\\u" ++ Text.hex 4 (0xDC80 + offset)

/-- A glyph in a text that is shown as it is. -/
def escaped : Glyph → String
  | char c => String.singleton c
  | byte offset => escape offset

/-- A glyph as it stands between the given quotes. -/
def quoted (quote : Char) : Glyph → String
  | char c => Text.quotedChar quote c
  | byte offset => escape offset

end Glyph

/-- A text in which bytes that belong to no character may stand. -/
abbrev Script := List Glyph

namespace Script

/-- The script of a text. -/
def ofString (s : String) : Script :=
  s.toList.map .char

instance : Coe String Script :=
  ⟨ofString⟩

@[simp] theorem ofString_inj {s t : String} : ofString s = ofString t ↔ s = t := by
  rw [ofString, ofString, List.map_inj_right fun _ _ => Glyph.char.inj, String.toList_inj]

/-- The bytes of a script. -/
def bytes (script : Script) : List UInt8 :=
  script.flatMap Glyph.bytes

/-- The script as a text, with escapes for bytes. -/
def escaped (script : Script) : String :=
  String.join (script.map Glyph.escaped)

/-- The script between quotes. -/
def quoted (script : Script) : String :=
  let quote := Text.quoteFor (script.filterMap Glyph.char?)
  String.singleton quote ++ String.join (script.map (Glyph.quoted quote)) ++
    String.singleton quote

/-- Why the script cannot be encoded, if it cannot: the bytes that stand together first. -/
def refusal? (script : Script) : Option String :=
  let start := (script.takeWhile fun glyph => glyph.char?.isSome).length
  let run := (script.drop start).takeWhile fun glyph => glyph.char?.isNone
  match run with
  | [] => none
  | [glyph] =>
      some ("'utf-8' codec can't encode character '" ++ glyph.escaped ++ "' in position " ++
        toString start ++ ": surrogates not allowed")
  | _ =>
      some ("'utf-8' codec can't encode characters in position " ++ toString start ++ "-" ++
        toString (start + run.length - 1) ++ ": surrogates not allowed")

end Script
end CalleeSaved
