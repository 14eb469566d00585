import CalleeSaved.Diagnostic.Basic
import CalleeSaved.Text.Word

/-!
# Suppressions

**Comments.**  A comment that holds the marker as a word of its own suppresses diagnostics.  The
identifiers after the marker restrict it; without any it suppresses everything.  Behind code the
comment covers its own line, alone on a line it covers the next one.

**Known identifiers.**  When the identifiers in use are known, any other word after the marker is
prose.

**Everywhere.**  An identifier, or a star for all, can also be suppressed in every file.

**Loading.**  The comments of a file replace those that were loaded for it before.
-/

namespace CalleeSaved

namespace SuppressionComment

/-- The text after the marker, when the marker stands as a word of its own at the head of the
text. -/
def afterMarker? (marker : Text) (before : Option Char) (text : Text) : Option Text :=
  let rest := text.drop marker.length
  if marker.isPrefixOf text && Text.wordBoundary before text.head? &&
      Text.wordBoundary (marker.getLast?.or before) rest.head? then some rest
  else none

/-- The text after the first marker of a comment, which ends with its line. -/
def inComment? (marker : Text) (before : Option Char) : Text → Option Text
  | [] => afterMarker? marker before []
  | c :: rest =>
      match afterMarker? marker before (c :: rest) with
      | some after => some after
      | none => if c == '\n' then none else inComment? marker (some c) rest

/-- The text after the first marker in a comment of a line. -/
def find? (marker : Text) : Text → Option Text
  | [] => none
  | c :: rest =>
      if c == ';' then
        match inComment? marker (some c) rest with
        | some after => some after
        | none => find? marker rest
      else find? marker rest

/-- The characters that separate identifiers. -/
def separates (c : Char) : Bool :=
  Text.isBlank c || c == ','

/-- The characters that can follow a marker as part of the suppression. -/
def inList (c : Char) : Bool :=
  Text.isWordChar c || separates c

/-- The identifiers after a marker. -/
def ids (after : Text) : List String :=
  (((after.takeWhile inList).splitOnP separates).filter fun word => !word.isEmpty).map String.ofList

/-- The identifiers after a marker that are known. -/
def knownIds (known : Option (List String)) (after : Text) : List String :=
  match known with
  | none => ids after
  | some names => (ids after).filter names.contains

/-- The line holds nothing but a comment. -/
def standsAlone (line : Text) : Bool :=
  line.trimStart.head? == some ';'

end SuppressionComment

/-- The diagnostics suppressed on a line: those with one of the identifiers, or all for a star. -/
structure Suppression where
  file : Script
  line : Int
  ids : List String
  deriving DecidableEq, Repr

namespace Suppression

/-- The identifier, or a star, is listed. -/
def lists (ids : List String) (id : String) : Bool :=
  ids.contains id || ids.contains "*"

/-- The suppression that a line with the given number carries. -/
def ofLine? (marker : Text) (known : Option (List String)) (file : Script) (number : Int)
    (line : Text) : Option Suppression :=
  match SuppressionComment.find? marker line with
  | none => none
  | some after =>
      let named := SuppressionComment.knownIds known after
      let target := if SuppressionComment.standsAlone line then number + 1 else number
      some ⟨file, target, if named.isEmpty then ["*"] else named⟩

/-- The suppressions of lines numbered from the given one. -/
def ofLines (marker : Text) (known : Option (List String)) (file : Script) (number : Int) :
    List Text → List Suppression
  | [] => []
  | line :: rest =>
      (ofLine? marker known file number line).toList ++ ofLines marker known file (number + 1) rest

end Suppression

/-- The suppressions in force. -/
structure Suppressions where
  marker : Text := ({} : Settings).marker
  known : Option (List String) := none
  inline : List Suppression := []
  everywhere : List String := []
  deriving DecidableEq

namespace Suppressions

/-- The suppressions with the comments of a file in place of those loaded for it before. -/
def load (suppressions : Suppressions) (file : Script) (lines : List Text) : Suppressions :=
  let others := suppressions.inline.filter fun entry => entry.file != file
  { suppressions with
    inline := others ++ Suppression.ofLines suppressions.marker suppressions.known file 1 lines }

/-- The suppressions with an identifier suppressed in every file. -/
def addEverywhere (suppressions : Suppressions) (id : String) : Suppressions :=
  { suppressions with everywhere := suppressions.everywhere ++ [id] }

/-- The identifiers suppressed on a line of a file. -/
def idsAt (suppressions : Suppressions) (file : Script) (line : Int) : List String :=
  let entries := suppressions.inline.filter fun entry => entry.file == file && entry.line == line
  entries.flatMap Suppression.ids

/-- The diagnostic is suppressed. -/
def covers (suppressions : Suppressions) (diagnostic : Diagnostic) : Bool :=
  let here := suppressions.idsAt diagnostic.location.file diagnostic.location.line
  Suppression.lists suppressions.everywhere diagnostic.id || Suppression.lists here diagnostic.id

/-- The diagnostics that are not suppressed. -/
def keep (suppressions : Suppressions) (diagnostics : List Diagnostic) : List Diagnostic :=
  diagnostics.filter fun diagnostic => !suppressions.covers diagnostic

end Suppressions
end CalleeSaved
