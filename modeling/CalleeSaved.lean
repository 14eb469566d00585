import CalleeSaved.CommandLine.Command
import CalleeSaved.CommandLine.Host
import CalleeSaved.CommandLine.Log
import CalleeSaved.CommandLine.Memo
import CalleeSaved.CommandLine.Run
import CalleeSaved.CommandLine.Switch
import CalleeSaved.Diagnostic.Basic
import CalleeSaved.Diagnostic.Inspector
import CalleeSaved.Diagnostic.Severity
import CalleeSaved.Diagnostic.Suppression
import CalleeSaved.Disk.Basic
import CalleeSaved.Disk.Path
import CalleeSaved.Disk.Source
import CalleeSaved.Disk.System
import CalleeSaved.Json
import CalleeSaved.Limits
import CalleeSaved.Main
import CalleeSaved.Proofs.Clobber.Sites
import CalleeSaved.Proofs.Register.ListGrammar
import CalleeSaved.Proofs.Source.LineGrammar
import CalleeSaved.Proofs.Span.Closure
import CalleeSaved.Proofs.Span.Layout
import CalleeSaved.Proofs.Span.Location
import CalleeSaved.Proofs.Text.Scan
import CalleeSaved.Proofs.Usage.Status
import CalleeSaved.Register.Basic
import CalleeSaved.Register.List
import CalleeSaved.Register.Name
import CalleeSaved.Register.Set
import CalleeSaved.Report.Ink
import CalleeSaved.Report.Printer
import CalleeSaved.Report.Sarif
import CalleeSaved.Report.Tally
import CalleeSaved.Routine.Caption
import CalleeSaved.Routine.Clobber
import CalleeSaved.Routine.Report
import CalleeSaved.Routine.Span
import CalleeSaved.Routine.Usage
import CalleeSaved.Routine.Verdict
import CalleeSaved.Settings
import CalleeSaved.Source.Instruction
import CalleeSaved.Source.Line
import CalleeSaved.Source.Operand
import CalleeSaved.Source.Transfer
import CalleeSaved.Text.Basic
import CalleeSaved.Text.Capital
import CalleeSaved.Text.Decimal
import CalleeSaved.Text.Lines
import CalleeSaved.Text.Printable
import CalleeSaved.Text.Quoted
import CalleeSaved.Text.Ranges
import CalleeSaved.Text.Script
import CalleeSaved.Text.Utf8
import CalleeSaved.Text.Word
import CalleeSaved.Proofs.Source.TransferGrammar
import CalleeSaved.Proofs.Source.TrailingComment
import CalleeSaved.Proofs.Diagnostic.InlineSuppression
import CalleeSaved.Proofs.Routine.Concatenation
import CalleeSaved.Proofs.Routine.SavePattern
import CalleeSaved.Proofs.CommandLine.Collection
import CalleeSaved.Proofs.Routine.InertLine
import CalleeSaved.Proofs.Diagnostic.Marker
import CalleeSaved.Proofs.Span.Insertion
import CalleeSaved.Proofs.Diagnostic.Order
import CalleeSaved.Proofs.Routine.Edits
import CalleeSaved.Proofs.Routine.SharedEntries
import CalleeSaved.Proofs.Diagnostic.LineEnds
import CalleeSaved.Proofs.CommandLine.ExitCode
import CalleeSaved.Proofs.Report.Totality
import CalleeSaved.Proofs.Register.Tokens
import CalleeSaved.Proofs.Source.Destination
import CalleeSaved.Proofs.Register.ListFormat
import CalleeSaved.Proofs.Source.FormattedTransfer
import CalleeSaved.Proofs.Source.LetterCase
import CalleeSaved.Proofs.Diagnostic.CommentGrammar
import CalleeSaved.Proofs.Diagnostic.LoadHistory
import CalleeSaved.Proofs.Diagnostic.Placement
import CalleeSaved.Proofs.Usage.Session
import CalleeSaved.Proofs.Report.Session
import CalleeSaved.Proofs.Routine.CaptionGroups
import CalleeSaved.Proofs.Source.Pieces
import CalleeSaved.Proofs.Source.TransferOperands
import CalleeSaved.Proofs.Text.Utf8
import CalleeSaved.Proofs.Disk.SourceFile
import CalleeSaved.Proofs.CommandLine.UnreadableFile
import CalleeSaved.Proofs.Register.NamedPlaces
import CalleeSaved.Proofs.Partial
import CalleeSaved.Proofs.Report.Encoding
import CalleeSaved.Proofs.Report.Rendering
import CalleeSaved.Proofs.Report.Showing
import CalleeSaved.Proofs.CommandLine.Writing
import CalleeSaved.Proofs.Source.OperandRules
