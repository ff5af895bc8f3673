import AliasReader.Reader.Failure
import AliasReader.Namespace.Failure
import AliasReader.Script.Directive

/-!
# Script Failures

What can stop a script, and how it is reported.
-/

namespace AliasReader

/-- Why a script stops. -/
inductive ScriptFailure where
  /-- A form cannot be read. -/
  | read (failure : ReadFailure)
  /-- The symbol table refuses a directive. -/
  | host (failure : NamespaceFailure) (span : Span)
  /-- The aliases of a directive cannot be registered. -/
  | aliases (failure : AliasFailure) (span : Span)
  /-- A directive has the wrong shape. -/
  | directive (keyword : Keyword) (problem : Malformation) (span : Span)
deriving DecidableEq, Repr

namespace ScriptFailure

/-- The place of the form at which the script stops. -/
def span : ScriptFailure → Span
  | read failure => failure.span
  | host _ span => span
  | aliases _ span => span
  | directive _ _ span => span

/-- The same failure at a place further on by `offset` bytes. -/
def shift (offset : Nat) : ScriptFailure → ScriptFailure
  | read failure => read (failure.shift offset)
  | host failure span => host failure (span.shift offset)
  | aliases failure span => aliases failure (span.shift offset)
  | directive keyword problem span => directive keyword problem (span.shift offset)

/-- What went wrong. -/
def message : ScriptFailure → String
  | read failure => failure.message
  | host failure _ => failure.message
  | aliases failure _ => failure.message
  | directive keyword problem _ =>
      "malformed `" ++ keyword.text ++ "` directive: " ++ problem.message

/-- The report of a failure. -/
def diagnostic (failure : ScriptFailure) : Diagnostic :=
  match failure with
  | read cause => cause.diagnostic
  | host cause span => cause.diagnostic span
  | aliases cause span =>
      { code := cause.code, message := cause.message
        labels := [⟨span, "in this `aliases` directive"⟩] }
  | directive keyword _ span =>
      { code := .malformedDirective, message := failure.message
        labels := [⟨span, "directive"⟩], suggestions := [keyword.usage] }

end ScriptFailure

end AliasReader
