import AliasReader.Report.Diagnostic
import AliasReader.Text.CasePolicy

/-!
# Failures of Aliased References

What can go wrong when an aliased reference is read, and how it is reported.
-/

namespace AliasReader

/-- Why an aliased reference cannot be resolved. -/
inductive AliasFailure where
  /-- The token has no colon, or its first colon is its last character. -/
  | malformedReference
  /-- The namespace has no such alias, or the alias designates no namespace; in the second
  case the designator is given. -/
  | unknownAlias (key : String) (designator : Option String)
  /-- The aliased namespace has no symbol of this name. -/
  | unresolvedIdentifier (target name : String)
  /-- The symbol is internal to the aliased namespace and was asked for as an external
  one. -/
  | notExternal (target name : String)
  /-- Tokens of aliased references cannot be folded under the policy. -/
  | unsupportedCase (policy : CasePolicy)
deriving DecidableEq, Repr

namespace AliasFailure

/-- The code to report a failure under. -/
def code : AliasFailure → ReportCode
  | malformedReference => .malformedReference
  | unknownAlias _ _ => .unknownAlias
  | unresolvedIdentifier _ _ => .unresolvedIdentifier
  | notExternal _ _ => .notExternal
  | unsupportedCase _ => .unsupportedCase

/-- What went wrong. -/
def message : AliasFailure → String
  | malformedReference =>
      "malformed aliased reference, expected `ALIAS:NAME` or `ALIAS::NAME`"
  | unknownAlias key none => "unknown alias `" ++ key ++ "`"
  | unknownAlias key (some designator) =>
      "unknown alias `" ++ key ++ "` (it names `" ++ designator ++
        "`, which is not a namespace)"
  | unresolvedIdentifier target name =>
      "`" ++ name ++ "` not found in namespace `" ++ target ++ "`"
  | notExternal target name =>
      "`" ++ name ++ "` is not external in namespace `" ++ target ++ "`"
  | unsupportedCase policy =>
      "case mode `" ++ policy.name ++ "` is not implemented for aliased references"

end AliasFailure

/-- An aliased reference that could not be read. -/
structure ReferenceFailure where
  /-- Why the reference could not be read. -/
  cause : AliasFailure
  /-- The token of the reference, folded unless folding failed. -/
  token : String
  /-- The name of the namespace in which the reference was read. -/
  current : String
deriving DecidableEq, Repr

namespace ReferenceFailure

/-- The code to report a failure under. -/
def code (failure : ReferenceFailure) : ReportCode := failure.cause.code

/-- What went wrong, with the token and the namespace. -/
def message (failure : ReferenceFailure) : String :=
  failure.cause.message ++ " (token `" ++ failure.token ++ "` in namespace `" ++
    failure.current ++ "`)"

/-- Ways to mend a failure. -/
def suggestions (failure : ReferenceFailure) : List String :=
  match failure.cause with
  | .malformedReference => ["write the alias, a colon, then the identifier"]
  | .unknownAlias _ none => ["register the alias for `" ++ failure.current ++ "` first"]
  | .notExternal _ _ => ["use `::` to reference an internal identifier"]
  | .unsupportedCase _ => ["use the upcase, downcase, or preserve case mode"]
  | .unknownAlias _ (some _) => []
  | .unresolvedIdentifier _ _ => []

/-- The report of a failure of the reference at `span`. -/
def diagnostic (failure : ReferenceFailure) (span : Span) : Diagnostic :=
  { code := failure.code
    message := failure.cause.message
    labels := [⟨span, "in `" ++ failure.token ++ "`"⟩]
    notes := ["current namespace is `" ++ failure.current ++ "`"]
    suggestions := failure.suggestions }

end ReferenceFailure

end AliasReader
