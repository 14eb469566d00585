import CalleeSaved.Text.Basic

/-!
# Lines of a text

**Line feeds.**  A source text is cut at every line feed, so that positions in the list are the
line numbers of an editor; a final line feed leaves an empty last line.

**Line boundaries.**  A paragraph of prose is cut at line ends of every kind, where carriage
return and line feed together are one end, and a final end leaves nothing behind.

**Normal form.**  `normalizeNewlines` writes every line end of a file as one line feed.
-/

namespace CalleeSaved
namespace Text

/-- The lines of a source text: its pieces between line feeds. -/
def lines (text : Text) : List Text :=
  text.splitOn '\n'

/-- Every carriage return, alone or with a line feed after it, becomes one line feed. -/
def normalizeNewlines : Text → Text
  | [] => []
  | '\r' :: '\n' :: rest => '\n' :: normalizeNewlines rest
  | '\r' :: rest => '\n' :: normalizeNewlines rest
  | c :: rest => c :: normalizeNewlines rest

/-- A character that ends a line of prose. -/
def isLineBoundary (c : Char) : Bool :=
  let n := c.toNat
  (0x0A ≤ n && n ≤ 0x0D) || (0x1C ≤ n && n ≤ 0x1E) || n == 0x85 || n == 0x2028 || n == 0x2029

/-- The character joins the first line of the lines that follow it. -/
def consFirst (c : Char) : List Text → List Text
  | [] => [[c]]
  | line :: rest => (c :: line) :: rest

/-- The lines of a paragraph; no text has no lines. -/
def paragraphLines : Text → List Text
  | [] => []
  | '\r' :: '\n' :: rest => [] :: paragraphLines rest
  | c :: rest =>
      if isLineBoundary c then [] :: paragraphLines rest else consFirst c (paragraphLines rest)

end Text
end CalleeSaved
