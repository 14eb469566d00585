/-!
# Source text

Source text is handled as a list of characters, so that scanners are recursions on the list and
columns are list positions.

**Blanks.**  `isBlank` is the white space that surrounds statements and operands, in any script;
`isSpace` is the narrower class of separators inside a statement.

**Trimming.**  `trimStart`, `trimEnd` and `trim` take blanks away; the `While` forms take any class.
-/

namespace CalleeSaved

/-- A piece of source text. -/
abbrev Text := List Char

namespace Text

/-- White space: tabs, line ends, information separators and the spaces of every script. -/
def isBlank (c : Char) : Bool :=
  let n := c.toNat
  (0x09 ≤ n && n ≤ 0x0D) || (0x1C ≤ n && n ≤ 0x20) || n == 0x85 || n == 0xA0 || n == 0x1680 ||
    (0x2000 ≤ n && n ≤ 0x200A) || n == 0x2028 || n == 0x2029 || n == 0x202F || n == 0x205F ||
    n == 0x3000

/-- The separators inside a statement: space and tab. -/
def isSpace (c : Char) : Bool :=
  c == ' ' || c == '\t'

/-- The text without its longest tail in the class. -/
def trimEndWhile (p : Char → Bool) (text : Text) : Text :=
  (text.reverse.dropWhile p).reverse

/-- The text without its longest head and its longest tail in the class. -/
def trimWhile (p : Char → Bool) (text : Text) : Text :=
  trimEndWhile p (text.dropWhile p)

/-- The text without leading blanks. -/
def trimStart (text : Text) : Text :=
  text.dropWhile isBlank

/-- The text without trailing blanks. -/
def trimEnd (text : Text) : Text :=
  trimEndWhile isBlank text

/-- The text without surrounding blanks. -/
def trim (text : Text) : Text :=
  trimWhile isBlank text

/-- The text without surrounding spaces and tabs. -/
def trimSpaces (text : Text) : Text :=
  trimWhile isSpace text

/-- The text holds nothing but blanks. -/
def allBlank (text : Text) : Bool :=
  text.all isBlank

end Text
end CalleeSaved
