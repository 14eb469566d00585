import CalleeSaved.Text.Printable

/-!
# Quoted text

Messages show a piece of text between quotes, in a form that can be read back.

**Quotes.**  Single quotes, unless the text holds a single quote and no double quote.

**Escapes.**  The backslash and the quote in use are preceded by a backslash; line feed, carriage
return and tab have a letter; another character without a shape is written by its code point in
two, four or eight hexadecimal digits.
-/

namespace CalleeSaved
namespace Text

/-- The number in small hexadecimal digits, filled with zeros up to the width. -/
def hex (width n : Nat) : String :=
  let digits := Nat.toDigits 16 n
  String.ofList (List.replicate (width - digits.length) '0' ++ digits)

/-- A character as it stands between the given quotes. -/
def quotedChar (quote c : Char) : String :=
  if c == quote || c == '\\' then String.ofList ['\\', c]
  else if c == '\n' then "\\n"
  else if c == '\r' then "\\r"
  else if c == '\t' then "\\t"
  else if isPrintable c then String.singleton c
  else if c.toNat < 0x100 then "\\x" ++ hex 2 c.toNat
  else if c.toNat < 0x10000 then "\\u" ++ hex 4 c.toNat
  else "\\U" ++ hex 8 c.toNat

/-- The quote that encloses the text. -/
def quoteFor (text : List Char) : Char :=
  if text.contains '\'' && !text.contains '"' then '"' else '\''

/-- The text between quotes. -/
def quoted (text : List Char) : String :=
  let quote := quoteFor text
  String.singleton quote ++ String.join (text.map (quotedChar quote)) ++ String.singleton quote

end Text
end CalleeSaved
