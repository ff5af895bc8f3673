/-!
# Report Codes

Every report carries a code. The codes that start with `E00` belong to the reader and its
namespaces, those that start with `E01` to aliased references.
-/

namespace AliasReader

/-- The reason for a report. -/
inductive ReportCode where
  /-- A string has no closing quote. -/
  | unterminatedString
  /-- A list has no closing parenthesis. -/
  | unterminatedList
  /-- A closing parenthesis closes no list. -/
  | unmatchedClose
  /-- There is no namespace of the given name. -/
  | unknownNamespace
  /-- Another namespace has the given name. -/
  | nameInUse
  /-- A directive has the wrong shape. -/
  | malformedDirective
  /-- A quote has no form behind it. -/
  | unexpectedEnd
  /-- An aliased reference has the wrong shape. -/
  | malformedReference
  /-- An alias leads to no namespace. -/
  | unknownAlias
  /-- The aliased namespace has no such symbol. -/
  | unresolvedIdentifier
  /-- The symbol is internal and was asked for as an external one. -/
  | notExternal
  /-- Aliased references cannot be read under the case policy. -/
  | unsupportedCase
deriving DecidableEq, Repr

namespace ReportCode

/-- All codes in order. -/
def all : List ReportCode :=
  [unterminatedString, unterminatedList, unmatchedClose, unknownNamespace, nameInUse,
    malformedDirective, unexpectedEnd, malformedReference, unknownAlias,
    unresolvedIdentifier, notExternal, unsupportedCase]

/-- The written code. -/
def text : ReportCode → String
  | unterminatedString => "E0001"
  | unterminatedList => "E0002"
  | unmatchedClose => "E0003"
  | unknownNamespace => "E0004"
  | nameInUse => "E0005"
  | malformedDirective => "E0006"
  | unexpectedEnd => "E0007"
  | malformedReference => "E0101"
  | unknownAlias => "E0102"
  | unresolvedIdentifier => "E0103"
  | notExternal => "E0104"
  | unsupportedCase => "E0105"

/-- What a code means, in one line. -/
def description : ReportCode → String
  | unterminatedString => "a string literal was not closed before end of input"
  | unterminatedList => "a list was not closed before end of input"
  | unmatchedClose => "a `)` appeared with no matching `(`"
  | unknownNamespace => "no namespace is known by the given name"
  | nameInUse => "the name or nickname is already used by another namespace"
  | malformedDirective => "a `defnamespace`, `in-namespace` or `aliases` form is malformed"
  | unexpectedEnd => "a `'` quote was followed by end of input instead of a form"
  | malformedReference =>
      "an aliased reference must have the form `ALIAS:NAME` or `ALIAS::NAME`"
  | unknownAlias => "the alias is not registered in the current namespace"
  | unresolvedIdentifier => "the aliased namespace has no identifier with that name"
  | notExternal => "the identifier is internal; use `ALIAS::NAME` to reference it explicitly"
  | unsupportedCase => "the `invert` case mode is not supported for aliased references"

/-- The code written in a text, where the case of ASCII letters does not matter. -/
def parse? (written : String) : Option ReportCode :=
  all.find? fun code =>
    code.text.toList.map Char.toLower == written.toList.map Char.toLower

/-- Whether a code belongs to the reader and its namespaces. -/
def isReading (code : ReportCode) : Bool :=
  ['E', '0', '0'].isPrefixOf code.text.toList

/-- Whether a code belongs to aliased references. -/
def isAliasing (code : ReportCode) : Bool :=
  ['E', '0', '1'].isPrefixOf code.text.toList

/-- Every code is read back from its written form. -/
theorem parse?_text (code : ReportCode) : parse? code.text = some code := by
  cases code <;> decide

end ReportCode

end AliasReader
