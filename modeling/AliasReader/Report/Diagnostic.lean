import AliasReader.Report.Code
import AliasReader.Source.Span

/-!
# Diagnostics

A diagnostic reports one error: its code and message, labelled places in the source text of
which the first is the primary one, notes on the circumstances, and suggestions.
-/

namespace AliasReader

/-- A place in a source text with a short explanation. -/
structure Label where
  /-- The place. -/
  span : Span
  /-- The explanation. -/
  message : String
deriving DecidableEq, Repr

/-- A report of one error. -/
structure Diagnostic where
  /-- The reason for the report. -/
  code : ReportCode
  /-- What went wrong. -/
  message : String
  /-- Where it went wrong, the primary place first. -/
  labels : List Label := []
  /-- Circumstances of the error. -/
  notes : List String := []
  /-- Ways to mend it. -/
  suggestions : List String := []
deriving DecidableEq, Repr

namespace Diagnostic

/-- The primary place. -/
def primary? (report : Diagnostic) : Option Span :=
  report.labels.head?.map Label.span

/-- The diagnostic in plain text, one line for each of its parts. -/
def plain (report : Diagnostic) : String :=
  let labels := report.labels.map fun label =>
    "\n  --> " ++ label.span.inspect ++ ": " ++ label.message
  let notes := report.notes.map ("\n  = note: " ++ ·)
  let suggestions := report.suggestions.map ("\n  = help: " ++ ·)
  "error [" ++ report.code.text ++ "]: " ++ report.message ++
    String.join labels ++ String.join notes ++ String.join suggestions

end Diagnostic

end AliasReader
