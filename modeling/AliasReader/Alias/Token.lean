import AliasReader.Alias.Failure
import AliasReader.Source.Cursor

/-!
# Tokens of Aliased References

The token of an aliased reference runs up to the next terminator or the end of the input.
The terminators are a fixed set of characters. The terminator itself is not read.
-/

namespace AliasReader

/-- The text of a token as it was written, and its place. -/
structure AliasToken where
  /-- The text of the token. -/
  text : String
  /-- The place of the token in the source. -/
  span : Span
deriving DecidableEq, Repr

namespace AliasToken

/-- The characters that end a token. -/
def terminators : List Char :=
  [' ', '\t', '\r', '\n', '\x0c', '"', '\'', '(', ')', ',', ';', '\x60']

/-- Whether a character ends a token. -/
def isTerminator (c : Char) : Bool := c ∈ terminators

/-- Take a token. -/
def take (cursor : Cursor) : AliasToken × Cursor :=
  let (cs, rest) := cursor.takeWhile fun c => !isTerminator c
  (⟨String.ofList cs, rest.spanFrom cursor.offset⟩, rest)

/-- Fold the text of a token. The policy `invert` is refused: it looks at a whole token, and
an alias and a name would not be folded alike alone and together. -/
def foldText (policy : CasePolicy) (text : String) : Except AliasFailure String :=
  match policy with
  | .invert => .error (.unsupportedCase .invert)
  | _ => .ok (policy.fold text)

/-- The folded text of a token. -/
def fold (token : AliasToken) (policy : CasePolicy) : Except AliasFailure String :=
  foldText policy token.text

/-- Folding is refused under the policy `invert` alone. -/
theorem foldText_of_ne {policy : CasePolicy} (h : policy ≠ .invert) (text : String) :
    foldText policy text = .ok (policy.fold text) := by
  cases policy <;> simp_all [foldText]

end AliasToken

end AliasReader
