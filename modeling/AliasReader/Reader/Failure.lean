import AliasReader.Alias.Failure

/-!
# Read Failures

Why a form cannot be read, and how that is reported. Every failure knows its place in the
source.
-/

namespace AliasReader

/-- Why a form cannot be read. -/
inductive ReadFailure where
  /-- The input ends inside a text. -/
  | unterminatedText (span : Span)
  /-- The input ends inside a list. -/
  | unterminatedList (span : Span)
  /-- A closing parenthesis closes no list. -/
  | unmatchedClose (span : Span)
  /-- The input ends behind a quote. -/
  | unexpectedEnd (span : Span)
  /-- The aliased reference behind a trigger fails. -/
  | reference (trigger : Char) (span : Span) (failure : ReferenceFailure)
deriving DecidableEq, Repr

namespace ReadFailure

/-- The place of the form that cannot be read. -/
def span : ReadFailure → Span
  | unterminatedText span => span
  | unterminatedList span => span
  | unmatchedClose span => span
  | unexpectedEnd span => span
  | reference _ span _ => span

/-- The same failure at a place further on by `offset` bytes. -/
def shift (offset : Nat) : ReadFailure → ReadFailure
  | unterminatedText span => unterminatedText (span.shift offset)
  | unterminatedList span => unterminatedList (span.shift offset)
  | unmatchedClose span => unmatchedClose (span.shift offset)
  | unexpectedEnd span => unexpectedEnd (span.shift offset)
  | reference trigger span failure => reference trigger (span.shift offset) failure

/-- What went wrong. -/
def message : ReadFailure → String
  | unterminatedText _ => "unterminated string literal"
  | unterminatedList _ => "unterminated list"
  | unmatchedClose _ => "unmatched `)`"
  | unexpectedEnd _ => "end of input before the quoted form"
  | reference _ _ failure => failure.message

/-- The report of a failure. -/
def diagnostic (failure : ReadFailure) : Diagnostic :=
  match failure with
  | unterminatedText span =>
      { code := .unterminatedString, message := failure.message
        labels := [⟨span, "string starts here"⟩] }
  | unterminatedList span =>
      { code := .unterminatedList, message := failure.message
        labels := [⟨span, "list starts here"⟩] }
  | unmatchedClose span =>
      { code := .unmatchedClose, message := failure.message
        labels := [⟨span, "no matching `(`"⟩] }
  | unexpectedEnd span =>
      { code := .unexpectedEnd, message := failure.message
        labels := [⟨span, "quote has nothing to quote"⟩] }
  | reference _ span cause => cause.diagnostic span

end ReadFailure

end AliasReader
