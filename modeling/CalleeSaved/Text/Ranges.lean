/-!
# Ranges of code points

A class of characters is written down as a list of closed ranges of code points.
-/

namespace CalleeSaved
namespace Text

/-- Closed ranges of code points. -/
abbrev CodeRanges := List (Nat × Nat)

/-- The code point lies in one of the ranges. -/
def CodeRanges.covers (ranges : CodeRanges) (code : Nat) : Bool :=
  ranges.any fun range => range.1 ≤ code && code ≤ range.2

end Text
end CalleeSaved
