import CalleeSaved.Proofs.Partial
import CalleeSaved.Report.Printer

/-!
# Diagnostics that cannot be shown

A diagnostic is any record, and its numbers, its range and its suggestions may be such that no layout
can show it on a given machine.  This module says exactly when.

**Numbers.**  `Limits.writes_of_le`: with a number all smaller ones can be written.

**Ranges.**  `TooWide` is an excerpt with an indent or an underline that the machine cannot build.

**Layouts.**  `fails_plainLines_iff` and `fails_terminalLines_iff`: what stops each layout.
`render_ne_emptyHelp`: only a suggestion without text is reported as one.

**Result.**  `Printer.exists_print_error_iff`.
-/

namespace CalleeSaved

open Partial

namespace Limits

variable {limits : Limits}

theorem writes_of_le
    {m n : Int}
    (h : limits.writes n = true)
    (hle : m.natAbs ≤ n.natAbs) :
    limits.writes m = true := by
  rw [writes, Option.all_eq_true] at h ⊢
  intro most hmost
  have hn : (Nat.toDigits 10 n.natAbs).length ≤ most := of_decide_eq_true (h most hmost)
  have hpos : 0 < most := Nat.lt_of_lt_of_le Nat.length_toDigits_pos hn
  refine decide_eq_true ?_
  rw [Nat.length_toDigits_le_iff (by decide) hpos] at hn ⊢
  exact Nat.lt_of_le_of_lt hle hn

theorem fails_number_iff
    {n : Int} :
    Fails (limits.number n) ↔ limits.writes n = false := by
  rw [number]
  cases limits.writes n <;> simp

theorem writes_of_number
    {n : Int}
    {text : String}
    (h : limits.number n = .ok text) :
    limits.writes n = true := by
  rw [← Bool.not_eq_false, ← fails_number_iff, h]
  exact not_fails_ok text

end Limits

/-- The text of a location has a column only if there is one; the number zero can be written along
with any other. -/
theorem Location.fails_describe_iff
    {limits : Limits}
    {location : Location} :
    Fails (location.describe limits) ↔
      limits.writes location.line = false ∨ limits.writes location.column = false := by
  rw [← Limits.fails_number_iff]
  refine fails_bind_iff fun text htext => ?_
  by_cases hcolumn : location.column = 0
  · have hzero : limits.writes 0 = true :=
      Limits.writes_of_le (Limits.writes_of_number htext) (Nat.zero_le _)
    simp [hcolumn, hzero, pure, Except.pure]
  · simp only [if_neg hcolumn]
    rw [fails_bind_pure_iff, Limits.fails_number_iff]

theorem Diagnostic.fails_describe_iff
    {limits : Limits}
    {diagnostic : Diagnostic} :
    Fails (diagnostic.describe limits) ↔ limits.writes diagnostic.location.line = false := by
  rw [describe, fails_bind_pure_iff, Limits.fails_number_iff]

namespace Layout

@[simp] theorem fails_written_iff
    {α : Type}
    (text : Except NumberError α) :
    Fails (written text) ↔ Fails text :=
  fails_mapError_iff _ _

theorem written_eq_ok_iff
    {α : Type}
    {text : Except NumberError α}
    {value : α} :
    written text = .ok value ↔ text = .ok value := by
  cases text with
  | error error =>
      constructor <;> rintro ⟨⟩
  | ok other =>
      constructor <;> rintro ⟨⟩ <;> rfl

theorem written_ne_emptyHelp
    {α : Type}
    (text : Except NumberError α) :
    written text ≠ .error .emptyHelp := by
  cases text with
  | error error =>
      rintro ⟨⟩
  | ok value =>
      rintro ⟨⟩

section Excerpts

variable {limits : Limits}

theorem fails_fill_iff
    {c : Char}
    {width : Int} :
    Fails (fill limits c width) ↔ limits.width < width := by
  rw [fill, Limits.width]
  split
  · simp
    omega
  · split <;> simp <;> omega

theorem fill_ne_emptyHelp
    {c : Char}
    {width : Int} :
    fill limits c width ≠ .error .emptyHelp := by
  rw [fill]
  split
  · simp
  · split <;> simp

/-- A source line is to be shown, and the machine cannot build the indent or the underline below
it. -/
def TooWide (limits : Limits) (sources : Sources) (diagnostic : Diagnostic) : Prop :=
  (sourceLine? sources diagnostic.location).isSome = true ∧
    (limits.width < diagnostic.location.column - 1 ∨
      limits.width < max (diagnostic.endColumn - diagnostic.location.column) 1)

theorem fails_excerpt_iff
    {paint : Painter}
    {sources : Sources}
    {diagnostic : Diagnostic}
    (h : limits.writes diagnostic.location.line = true) :
    Fails (excerpt limits paint sources diagnostic) ↔ TooWide limits sources diagnostic := by
  have hnumber : ¬ Fails (written (limits.number diagnostic.location.line)) := by
    rw [fails_written_iff, Limits.fails_number_iff, h]
    simp
  rw [excerpt, TooWide]
  cases sourceLine? sources diagnostic.location with
  | none =>
      simp
  | some source =>
      rw [Option.isSome_some, eq_self, true_and]
      refine (fails_bind_iff fun number _ => ?_).trans (or_iff_right hnumber)
      refine (fails_bind_iff fun indent _ => ?_).trans (or_congr fails_fill_iff Iff.rfl)
      rw [fails_bind_pure_iff, fails_fill_iff]

end Excerpts

section Suggestions

theorem paragraphLines_eq_nil_iff
    {text : Text} :
    Text.paragraphLines text = [] ↔ text = [] := by
  fun_cases Text.paragraphLines text with
  | case1 =>
      simp
  | case2 rest =>
      simp
  | case3 c rest hpair hboundary =>
      simp
  | case4 c rest hpair hboundary =>
      cases Text.paragraphLines rest <;> simp [Text.consFirst]

theorem fails_helpLines_iff
    {paint : Painter}
    {help : String} :
    Fails (helpLines paint help) ↔ help = "" := by
  have hempty : help = "" ↔ Text.paragraphLines help.toList = [] := by
    rw [paragraphLines_eq_nil_iff]
    simp
  rw [hempty, helpLines]
  cases Text.paragraphLines help.toList <;> simp

theorem fails_mapM_helpLines_iff
    {paint : Painter}
    {helps : List String} :
    Fails (helps.mapM (helpLines paint)) ↔ "" ∈ helps := by
  simp [fails_mapM_iff, fails_helpLines_iff]

end Suggestions

section Layouts

variable {limits : Limits} {paint : Painter} {sources : Sources} {diagnostic : Diagnostic}

theorem fails_plainLines_iff :
    Fails (plainLines limits diagnostic) ↔ limits.writes diagnostic.location.line = false := by
  rw [plainLines, fails_bind_pure_iff, fails_written_iff, Diagnostic.fails_describe_iff]

/-- The terminal layout fails at a number of its location, at an excerpt or at a suggestion.  The line
that closes it has no number of its own. -/
theorem fails_terminalLines_iff :
    Fails (terminalLines limits paint sources diagnostic) ↔
      (limits.writes diagnostic.location.line = false ∨
        limits.writes diagnostic.location.column = false) ∨
      TooWide limits sources diagnostic ∨ "" ∈ diagnostic.helps := by
  rw [← Location.fails_describe_iff, ← fails_written_iff]
  refine fails_bind_iff fun place hplace => ?_
  have hline : limits.writes diagnostic.location.line = true := by
    have hok : ¬ Fails (diagnostic.location.describe limits) := by
      rw [← fails_written_iff, hplace]
      exact not_fails_ok place
    rw [Location.fails_describe_iff, not_or, Bool.not_eq_false] at hok
    exact hok.1
  have hclosing : ¬ Fails (written (diagnostic.describe limits)) := by
    rw [fails_written_iff, Diagnostic.fails_describe_iff, hline]
    simp
  rw [← fails_excerpt_iff hline, ← fails_mapM_helpLines_iff]
  refine fails_bind_iff fun shown _ => ?_
  refine (fails_bind_iff fun helps _ => ?_).trans (or_iff_left hclosing)
  exact fails_bind_pure_iff _ _

theorem excerpt_ne_emptyHelp :
    excerpt limits paint sources diagnostic ≠ .error .emptyHelp := by
  rw [excerpt]
  split
  · simp
  · intro h
    rcases bind_eq_error_iff.mp h with hnumber | ⟨number, -, h⟩
    · exact written_ne_emptyHelp _ hnumber
    · rcases bind_eq_error_iff.mp h with hindent | ⟨indent, -, h⟩
      · exact fill_ne_emptyHelp hindent
      · rcases bind_eq_error_iff.mp h with hunderline | ⟨underline, -, ⟨⟩⟩
        exact fill_ne_emptyHelp hunderline

/-- Only a suggestion without text is reported as one. -/
theorem render_ne_emptyHelp
    {layout : Layout}
    (h : "" ∉ diagnostic.helps) :
    layout.render limits paint sources diagnostic ≠ .error .emptyHelp := by
  intro herror
  cases layout with
  | plain =>
      rcases bind_eq_error_iff.mp herror with hlines | ⟨lines, -, ⟨⟩⟩
      rcases bind_eq_error_iff.mp hlines with hheadline | ⟨headline, -, ⟨⟩⟩
      exact written_ne_emptyHelp _ hheadline
  | terminal =>
      rcases bind_eq_error_iff.mp herror with hlines | ⟨lines, -, ⟨⟩⟩
      rcases bind_eq_error_iff.mp hlines with hplace | ⟨place, -, hrest⟩
      · exact written_ne_emptyHelp _ hplace
      · rcases bind_eq_error_iff.mp hrest with hshown | ⟨shown, -, hrest⟩
        · exact excerpt_ne_emptyHelp hshown
        · rcases bind_eq_error_iff.mp hrest with hhelps | ⟨helps, -, hrest⟩
          · exact h (fails_mapM_helpLines_iff.mp ⟨_, hhelps⟩)
          · rcases bind_eq_error_iff.mp hrest with hclosing | ⟨closing, -, ⟨⟩⟩
            exact written_ne_emptyHelp _ hclosing

/-- What stops a layout: a line number that cannot be written, and in the terminal layout a column that
cannot, an excerpt that is too wide, or a suggestion without text. -/
theorem fails_render_iff
    {layout : Layout} :
    Fails (layout.render limits paint sources diagnostic) ↔
      limits.writes diagnostic.location.line = false ∨
        layout = .terminal ∧
          (limits.writes diagnostic.location.column = false ∨
            TooWide limits sources diagnostic ∨ "" ∈ diagnostic.helps) := by
  cases layout with
  | plain =>
      rw [render, fails_bind_pure_iff, fails_plainLines_iff]
      simp
  | terminal =>
      rw [render, fails_bind_pure_iff, fails_terminalLines_iff, or_assoc]
      simp

end Layouts

end Layout

namespace Printer

@[simp] theorem print_snd
    (printer : Printer)
    (diagnostic : Diagnostic) :
    (printer.print diagnostic).2 = printer.pieces diagnostic := by
  rw [print]
  cases printer.pieces diagnostic <;> rfl

/-- When a diagnostic cannot be shown. -/
theorem exists_print_error_iff
    {printer : Printer}
    {diagnostic : Diagnostic} :
    (∃ error, (printer.print diagnostic).2 = .error error) ↔
      printer.limits.writes diagnostic.location.line = false ∨
        printer.layout = .terminal ∧
          (printer.limits.writes diagnostic.location.column = false ∨
            Layout.TooWide printer.limits printer.sources diagnostic ∨
            "" ∈ diagnostic.helps) := by
  rw [print_snd]
  exact Layout.fails_render_iff

end Printer
end CalleeSaved
