import Std.Data.HashMap.Basic
import Std.Data.TreeMap.Basic

/-!
# Lines that are remembered

The reader of source lines remembers what the lines that it has read stand for, so that it
understands each of them once.

**Capacity.**  It remembers a limited number of lines.  When a further one comes, it forgets the
line whose last reading is the longest ago.

**Clock.**  Every reading has a time of its own, so the lines by the time of their last reading
form a queue.
-/

namespace CalleeSaved

/-- The lines that are remembered, each with the time of its last reading. -/
structure Memo where
  time : Nat := 0
  readAt : Std.HashMap String Nat := ∅
  lines : Std.TreeMap Nat String := ∅

namespace Memo

/-- The number of lines that can be remembered. -/
def capacity : Nat := 4096

/-- The line is remembered. -/
def remembers (memo : Memo) (line : String) : Bool :=
  memo.readAt.contains line

/-- The line whose last reading is the longest ago is forgotten. -/
def forgetOldest (memo : Memo) : Memo :=
  match memo.lines.minEntry? with
  | none => memo
  | some (time, line) =>
      { memo with readAt := memo.readAt.erase line, lines := memo.lines.erase time }

/-- There is room for one more line. -/
def makeRoom (memo : Memo) : Memo :=
  if memo.readAt.size < capacity then memo else memo.forgetOldest

/-- What is remembered after a line is read. -/
def read (memo : Memo) (line : String) : Memo :=
  let ready :=
    match memo.readAt[line]? with
    | some time => { memo with lines := memo.lines.erase time }
    | none => memo.makeRoom
  { time := ready.time + 1
    readAt := ready.readAt.insert line ready.time
    lines := ready.lines.insert ready.time line }

end Memo
end CalleeSaved
