import CalleeSaved.Settings
import CalleeSaved.Source.Line

/-!
# Routine spans

A routine starts at a label line and ends at its first return.

**Marks.**  Only label lines and return lines decide where routines are, so the search works on
the list of marks of the lines.

**Entries.**  A return confirms the label before it.  With shared entries it confirms every label
since the last return.  A label line starts a routine when its name is confirmed anywhere in the
file.

**End.**  The body reaches up to the first return, that line included.  Without shared entries it
ends before the next label, if that comes first.  Without either it reaches to the end of the file.
-/

namespace CalleeSaved

/-- What a line means to the search for routines. -/
inductive Mark
  | label (name : String)
  | ret
  | plain
  deriving DecidableEq, Repr

/-- The mark of a line. -/
def Line.mark (line : Line) : Mark :=
  match line with
  | .label name => .label name
  | line => if line.isReturn then .ret else .plain

/-- The mark of a source line. -/
def Mark.ofText (text : Text) : Mark :=
  (Line.ofText text).mark

/-- A routine by its label, the line of the label and its last line, counted from zero.  A negative
line counts from the end of the file. -/
structure Span where
  label : String
  start : Int
  stop : Int
  deriving DecidableEq, Repr

namespace Span

/-- The position that an index stands for in a list of the given length. -/
def position (length : Nat) (index : Int) : Nat :=
  if index < 0 then (index + length).toNat else min index.toNat length

/-- The lines from one index up to another, that one excluded. -/
def window {α : Type} (lines : List α) (first last : Int) : List α :=
  (lines.take (position lines.length last)).drop (position lines.length first)

/-- The first line after the label. -/
def bodyStart (span : Span) : Int :=
  span.start + 1

/-- The lines after the label, the last line included. -/
def body {α : Type} (span : Span) (lines : List α) : List α :=
  window lines span.bodyStart (span.stop + 1)

/-- The names of labels that a return confirms, given the labels that wait for one. -/
def confirmedAfter (share : Bool) (waiting : List String) : List Mark → List String
  | [] => []
  | .label name :: rest => confirmedAfter share (if share then waiting ++ [name] else [name]) rest
  | .ret :: rest => waiting ++ confirmedAfter share (if share then [] else waiting) rest
  | .plain :: rest => confirmedAfter share waiting rest

/-- The names of labels that a return confirms. -/
def confirmed (share : Bool) (marks : List Mark) : List String :=
  confirmedAfter share [] marks

/-- The last line of a body whose remaining marks start at the given line. -/
def stopAt (share : Bool) (line : Int) : List Mark → Int
  | [] => line - 1
  | .ret :: _ => line
  | .label _ :: rest => if share then stopAt share (line + 1) rest else line - 1
  | .plain :: rest => stopAt share (line + 1) rest

/-- The routines among marks that start at the given line, for the given confirmed names. -/
def findFrom (share : Bool) (names : List String) (line : Int) : List Mark → List Span
  | [] => []
  | .label name :: rest =>
      let later := findFrom share names (line + 1) rest
      if names.contains name then ⟨name, line, stopAt share (line + 1) rest⟩ :: later else later
  | .ret :: rest => findFrom share names (line + 1) rest
  | .plain :: rest => findFrom share names (line + 1) rest

/-- The routines among the marks of a file. -/
def findMarked (share : Bool) (marks : List Mark) : List Span :=
  findFrom share (confirmed share marks) 0 marks

/-- The routines of a file, in the order of their label lines. -/
def findAll (settings : Settings) (lines : List Text) : List Span :=
  findMarked settings.shareEntryLabels (lines.map Mark.ofText)

end Span
end CalleeSaved
