import AliasReader.Report.Diagnostic

/-!
# Namespace Failures

The two ways in which a request to the symbol table can be refused.
-/

namespace AliasReader

/-- Why a request to the symbol table is refused. -/
inductive NamespaceFailure where
  /-- No namespace is designated by this text. -/
  | unknown (designator : String)
  /-- The name belongs to another namespace, whose primary name is `owner`. -/
  | nameInUse (name owner : String)
deriving DecidableEq, Repr

namespace NamespaceFailure

/-- The code to report a failure under. -/
def code : NamespaceFailure → ReportCode
  | unknown _ => .unknownNamespace
  | nameInUse _ _ => .nameInUse

/-- What went wrong. -/
def message : NamespaceFailure → String
  | unknown designator => "no namespace named `" ++ designator ++ "`"
  | nameInUse name owner =>
      "name `" ++ name ++ "` is already used by namespace `" ++ owner ++ "`"

/-- The report of a failure that came up in the form at `span`. -/
def diagnostic (failure : NamespaceFailure) (span : Span) : Diagnostic :=
  { code := failure.code
    message := failure.message
    labels := [⟨span, "while reading this form"⟩] }

end NamespaceFailure

end AliasReader
