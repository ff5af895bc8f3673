import AliasReader.Report.Diagnostic
import AliasReader.Source.Line

/-!
# Reports for a Terminal

The form in which a diagnostic is shown to a person. With a source text at hand, the places
of its labels are given by line and column, and each label is followed by its line with a
run of carets below the place. Colours are ANSI sequences around parts of the text.

## Main definitions

* `Terminal.emphasize`: a part of a report with its colours, if there are any;
* `Terminal.snippet`: the line of a label and the carets below it;
* `Terminal.render`: a whole report.
-/

namespace AliasReader

/-- When to colour a report. -/
inductive ColorMode where
  /-- In a terminal only. -/
  | auto
  /-- In any case. -/
  | always
  /-- Never. -/
  | never
deriving DecidableEq, Repr

namespace ColorMode

/-- Whether a report is coloured, given whether it is shown in a terminal. -/
def applies (mode : ColorMode) (terminal : Bool) : Bool :=
  match mode with
  | auto => terminal
  | always => true
  | never => false

end ColorMode

namespace Terminal

/-- A way of making a part of a report stand out. -/
inductive Emphasis where
  /-- The error itself and its primary place. -/
  | error
  /-- Places other than the primary one. -/
  | context
  /-- Suggestions. -/
  | help
  /-- The code and notes. -/
  | bold
deriving DecidableEq, Repr

/-- The ANSI sequence that starts an emphasis. -/
def Emphasis.start : Emphasis → String
  | error => "\x1b[1;31m"
  | context => "\x1b[1;34m"
  | help => "\x1b[1;32m"
  | bold => "\x1b[1m"

/-- The ANSI sequence that ends every emphasis. -/
def reset : String := "\x1b[0m"

/-- A part of a report, emphasised if colours are on. -/
def emphasize (colored : Bool) (emphasis : Emphasis) (part : String) : String :=
  if colored then emphasis.start ++ part ++ reset else part

/-- A run of one character. -/
def run (c : Char) (count : Nat) : String :=
  String.ofList (List.replicate count c)

/-- The number of carets under a label: one for each byte of its span, but at least one and
not beyond the end of the line. -/
def caretCount (span : Span) (line : Line) : Nat :=
  min (max span.length 1) (max (byteLength line.text - line.column) 1)

/-- The line of a label and the carets below it. -/
def snippet (colored : Bool) (emphasis : Emphasis) (span : Span) (line : Line) : String :=
  let number := toString line.number
  let gutter := run ' ' number.length
  "  " ++ gutter ++ " |\n" ++
    "  " ++ number ++ " | " ++ String.ofList line.text ++ "\n" ++
    "  " ++ gutter ++ " | " ++ run ' ' line.column ++
    emphasize colored emphasis (run '^' (caretCount span line)) ++ "\n"

/-- The largest width that blanks can fill in front of the carets. -/
def maxColumn : Nat := 65535

/-- The place of a label, and its snippet where the source has one. There is no answer when
the label starts inside a character of the source, or too far behind the start of its line. -/
def place? (colored : Bool) (source : Option String) (emphasis : Emphasis) (span : Span) :
    Option (String × String) :=
  match source with
  | none => some (span.inspect, "")
  | some text =>
      match Line.locate text.toList span.start with
      | .outside => some (span.inspect, "")
      | .insideCharacter => none
      | .inLine line =>
          if line.column ≤ maxColumn then
            some (toString line.number ++ ":" ++ toString (line.column + 1),
              snippet colored emphasis span line)
          else none

/-- One label of a report. -/
def label? (colored : Bool) (source : Option String) (primary : Bool) (label : Label) :
    Option String :=
  let marker := if primary then "-->" else "   "
  let emphasis := if primary then Emphasis.error else Emphasis.context
  (place? colored source emphasis label.span).map fun (position, below) =>
    "  " ++ marker ++ " " ++ position ++ ": " ++
      emphasize colored emphasis label.message ++ "\n" ++ below

/-- The labels of a report, of which the first is the primary one. -/
def labels? (colored : Bool) (source : Option String) : List Label → Option String
  | [] => some ""
  | first :: rest => do
      let head ← label? colored source true first
      let tail ← rest.mapM (label? colored source false)
      return head ++ String.join tail

/-- The first line of a report. -/
def header (colored : Bool) (report : Diagnostic) : String :=
  emphasize colored .error "error" ++
    emphasize colored .bold ("[" ++ report.code.text ++ "]") ++ ": " ++ report.message ++ "\n"

/-- A line below the labels that starts with an emphasised keyword. -/
def remark (colored : Bool) (emphasis : Emphasis) (keyword content : String) : String :=
  "  = " ++ emphasize colored emphasis keyword ++ ": " ++ content ++ "\n"

/-- A whole report, which an empty line ends. There is no answer when a label has no
place. -/
def render (colored : Bool) (source : Option String) (report : Diagnostic) :
    Option String :=
  (labels? colored source report.labels).map fun labels =>
    header colored report ++ labels ++
      String.join (report.notes.map (remark colored .bold "note")) ++
      String.join (report.suggestions.map (remark colored .help "help")) ++ "\n"

end Terminal

end AliasReader
