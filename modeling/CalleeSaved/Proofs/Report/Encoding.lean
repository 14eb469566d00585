import CalleeSaved.Proofs.Report.Rendering
import Mathlib.Data.List.TakeWhile

/-!
# Output that can be encoded

The name of a file need not be a text, and then UTF-8 refuses the output that shows it.  This module
shows that nothing else is refused: where the name is a text, so is the output.

**Texts.**  `Script.IsText` is a script without bytes that belong to no character.
`IsText.refusal?_eq_none`: it is never refused.

**Painters.**  `Painter.KeepsTexts` is a painter that makes texts of texts.

**Diagnostics.**  `Diagnostic.isText_of_editorLine`: the line for editors.  `Printer.isText_of_pieces`
and `Printer.isText_summary`: what a printer shows.
-/

namespace CalleeSaved

open Partial

namespace Script

/-- Every glyph of the script is a character. -/
def IsText (script : Script) : Prop :=
  ∀ glyph ∈ script, glyph.char?.isSome = true

instance (script : Script) : Decidable script.IsText :=
  inferInstanceAs (Decidable (∀ glyph ∈ script, _))

@[simp] theorem isText_ofString
    (s : String) :
    (ofString s).IsText :=
  List.forall_mem_map.mpr fun _ _ => rfl

@[simp] theorem isText_append_iff
    {first second : Script} :
    (first ++ second).IsText ↔ first.IsText ∧ second.IsText :=
  List.forall_mem_append

theorem isText_intercalate
    {separator : Script}
    {parts : List Script}
    (hseparator : separator.IsText)
    (hparts : ∀ part ∈ parts, part.IsText) :
    IsText (List.intercalate separator parts) := by
  induction parts with
  | nil =>
      simp [IsText, List.intercalate]
  | cons part rest ih =>
      obtain ⟨hpart, hrest⟩ := List.forall_mem_cons.mp hparts
      cases rest with
      | nil =>
          simpa [List.intercalate] using hpart
      | cons next rest =>
          simpa [List.intercalate, hpart, hseparator] using ih hrest

theorem IsText.refusal?_eq_none
    {script : Script}
    (h : script.IsText) :
    script.refusal? = none := by
  have hall : (script.takeWhile fun glyph => glyph.char?.isSome) = script :=
    List.takeWhile_eq_self_iff.mpr h
  simp [refusal?, hall]

end Script

namespace Painter

/-- The painter makes texts of texts. -/
def KeepsTexts (paint : Painter) : Prop :=
  ∀ weight colour text, text.IsText → (paint weight colour text).IsText

theorem KeepsTexts.bold
    {paint : Painter}
    {text : Script}
    (h : paint.KeepsTexts)
    (colour : Colour)
    (htext : text.IsText) :
    (paint.bold colour text).IsText :=
  h .bold (some colour) text htext

end Painter

theorem Location.isText_of_describe
    {limits : Limits}
    {location : Location}
    {place : Script}
    (hfile : location.file.IsText)
    (h : location.describe limits = .ok place) :
    place.IsText := by
  obtain ⟨line, -, h⟩ := bind_eq_ok_iff.mp h
  split at h
  · obtain rfl := Except.ok.inj h
    simp [hfile]
  · obtain ⟨column, -, h⟩ := bind_eq_ok_iff.mp h
    obtain rfl := Except.ok.inj h
    simp [hfile]

namespace Diagnostic

variable {limits : Limits} {d : Diagnostic} {text : Script}

theorem isText_of_describe
    (hfile : d.location.file.IsText)
    (h : d.describe limits = .ok text) :
    text.IsText := by
  obtain ⟨line, -, h⟩ := bind_eq_ok_iff.mp h
  obtain rfl := Except.ok.inj h
  simp [hfile]

theorem isText_of_editorLine
    (hfile : d.location.file.IsText)
    (h : d.editorLine limits = .ok text) :
    text.IsText := by
  obtain ⟨place, hplace, h⟩ := bind_eq_ok_iff.mp h
  obtain rfl := Except.ok.inj h
  simp [Location.isText_of_describe hfile hplace]

end Diagnostic

namespace Layout

variable {limits : Limits} {paint : Painter} {sources : Sources} {d : Diagnostic}
  {lines : List Script}

theorem isText_of_plainLines
    (hfile : d.location.file.IsText)
    (h : plainLines limits d = .ok lines) :
    ∀ line ∈ lines, line.IsText := by
  obtain ⟨headline, hheadline, h⟩ := bind_eq_ok_iff.mp h
  obtain rfl := Except.ok.inj h
  have hfirst := Diagnostic.isText_of_describe hfile (written_eq_ok_iff.mp hheadline)
  rw [List.forall_mem_cons, List.forall_mem_map]
  exact ⟨hfirst, fun _ _ => Script.isText_ofString _⟩

theorem isText_of_excerpt
    (hpaint : paint.KeepsTexts)
    (h : excerpt limits paint sources d = .ok lines) :
    ∀ line ∈ lines, line.IsText := by
  rw [excerpt] at h
  split at h
  · obtain rfl := Except.ok.inj h
    simp
  · obtain ⟨number, -, h⟩ := bind_eq_ok_iff.mp h
    obtain ⟨indent, -, h⟩ := bind_eq_ok_iff.mp h
    obtain ⟨underline, -, h⟩ := bind_eq_ok_iff.mp h
    obtain rfl := Except.ok.inj h
    simp [hpaint.bold]

theorem isText_of_helpLines
    {help : String}
    (hpaint : paint.KeepsTexts)
    (h : helpLines paint help = .ok lines) :
    ∀ line ∈ lines, line.IsText := by
  rw [helpLines] at h
  split at h
  · cases h
  · obtain rfl := Except.ok.inj h
    rw [List.forall_mem_cons, List.forall_mem_map]
    simp [hpaint.bold]

theorem isText_of_terminalLines
    (hpaint : paint.KeepsTexts)
    (hfile : d.location.file.IsText)
    (h : terminalLines limits paint sources d = .ok lines) :
    ∀ line ∈ lines, line.IsText := by
  obtain ⟨place, hplace, h⟩ := bind_eq_ok_iff.mp h
  obtain ⟨shown, hshown, h⟩ := bind_eq_ok_iff.mp h
  obtain ⟨helps, hhelps, h⟩ := bind_eq_ok_iff.mp h
  obtain ⟨closing, hclosing, h⟩ := bind_eq_ok_iff.mp h
  obtain rfl := Except.ok.inj h
  have hplaceText := Location.isText_of_describe hfile (written_eq_ok_iff.mp hplace)
  have hclosingText := Diagnostic.isText_of_describe hfile (written_eq_ok_iff.mp hclosing)
  have hhelp : ∀ line ∈ helps.flatten, line.IsText := by
    intro line hline
    obtain ⟨part, hpart, hline⟩ := List.mem_flatten.mp hline
    obtain ⟨help, -, hread⟩ := exists_item_of_mapM hhelps part hpart
    exact isText_of_helpLines hpaint hread line hline
  iterate 4 rw [List.forall_mem_append]
  refine ⟨⟨⟨⟨?_, isText_of_excerpt hpaint hshown⟩, ?_⟩, hhelp⟩, ?_⟩
  · simp [hpaint.bold, hpaint .bold none, hplaceText]
  · exact List.forall_mem_map.mpr fun note _ => by simp [hpaint.bold]
  · exact List.forall_mem_singleton.mpr (hpaint .dark none closing hclosingText)

end Layout

namespace Printer

variable {printer : Printer} {d : Diagnostic}

/-- A diagnostic is shown by texts. -/
theorem isText_of_pieces
    {pieces : List Script}
    (hpaint : printer.paint.KeepsTexts)
    (hfile : d.location.file.IsText)
    (h : printer.pieces d = .ok pieces) :
    ∀ piece ∈ pieces, piece.IsText := by
  rw [Printer.pieces] at h
  cases hlayout : printer.layout with
  | plain =>
      rw [hlayout] at h
      obtain ⟨lines, hlines, h⟩ := bind_eq_ok_iff.mp h
      obtain rfl := Except.ok.inj h
      have htexts := Layout.isText_of_plainLines hfile hlines
      exact List.forall_mem_map.mpr fun line hline => by simp [htexts line hline]
  | terminal =>
      rw [hlayout] at h
      obtain ⟨lines, hlines, h⟩ := bind_eq_ok_iff.mp h
      obtain rfl := Except.ok.inj h
      have htexts := Layout.isText_of_terminalLines hpaint hfile hlines
      have hjoined := Script.isText_intercalate (Script.isText_ofString "\n") htexts
      exact List.forall_mem_singleton.mpr (by simp [hjoined])

theorem isText_summary
    (hpaint : printer.paint.KeepsTexts) :
    printer.summary.IsText := by
  rw [summary]
  cases printer.layout <;> simp [hpaint.bold]

end Printer
end CalleeSaved
