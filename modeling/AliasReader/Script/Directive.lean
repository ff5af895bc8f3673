import AliasReader.Datum
import AliasReader.Text.CasePolicy

/-!
# Directives

A script is a sequence of data. A list that starts with one of three keywords is a
directive: it defines a namespace, enters one, or gives the current namespace aliases. A
directive is taken from a datum whose symbols are replaced by their names. Keywords are
compared after folding, as every other symbol.
-/

namespace AliasReader

/-- The keywords that start a directive. -/
inductive Keyword where
  /-- Define a namespace. -/
  | defnamespace
  /-- Enter a namespace. -/
  | inNamespace
  /-- Give the current namespace aliases. -/
  | aliases
deriving DecidableEq, Repr

namespace Keyword

/-- All keywords. -/
def all : List Keyword := [defnamespace, inNamespace, aliases]

/-- The keyword before folding. -/
def text : Keyword → String
  | defnamespace => "defnamespace"
  | inNamespace => "in-namespace"
  | aliases => "aliases"

/-- How to write the directive. -/
def usage : Keyword → String
  | defnamespace => "write `(defnamespace NAME (:export SYM...) (:intern SYM...))`"
  | inNamespace => "write `(in-namespace NAME)`"
  | aliases => "write `(aliases (TARGET ALIAS)...)`"

/-- The keyword that a folded name spells. -/
def ofName? (policy : CasePolicy) (name : String) : Option Keyword :=
  all.find? fun keyword => policy.fold keyword.text == name

end Keyword

/-- Why a list with a keyword is no directive. -/
inductive Malformation where
  /-- No namespace is named. -/
  | missingName
  /-- The name of the namespace is a list or quoted. -/
  | nameNotWord
  /-- A clause is no list or has no keyword. -/
  | clauseNotList
  /-- An entry of a clause is a list or quoted. -/
  | entryNotWord
  /-- A clause starts with something else than the two keywords. -/
  | unknownClause
  /-- There is not exactly one argument. -/
  | notOneName
  /-- An entry is no list of two words. -/
  | notPair
deriving DecidableEq, Repr

namespace Malformation

/-- What is wrong with a directive. -/
def message : Malformation → String
  | missingName => "expected a namespace name"
  | nameNotWord => "the name must be a symbol or string"
  | clauseNotList => "each clause must be a list"
  | entryNotWord => "clause entries must be symbols or strings"
  | unknownClause => "clauses are `:export` or `:intern`"
  | notOneName => "expected exactly one namespace name"
  | notPair => "each entry must be a `(TARGET ALIAS)` pair"

end Malformation

/-- A request of a script. -/
inductive Directive where
  /-- Define a namespace with external and internal symbols. -/
  | define (name : String) (external internal : List String)
  /-- Go on in a namespace. -/
  | enter (name : String)
  /-- Replace the aliases of the current namespace by pairs of target and alias. -/
  | setAliases (pairs : List (String × String))
deriving DecidableEq, Repr

namespace Directive

/-- The words that all data of a list stand for. -/
def words? : List (Datum String) → Option (List String)
  | [] => some []
  | datum :: rest =>
      match datum.word?, words? rest with
      | some word, some words => some (word :: words)
      | _, _ => none

/-- The names that the clauses of a definition list as external and as internal. -/
def clauses (policy : CasePolicy) :
    List (Datum String) → Except Malformation (List String × List String)
  | [] => .ok ([], [])
  | .list (kind :: entries) :: rest =>
      match words? entries with
      | none => .error .entryNotWord
      | some names =>
          let kind := kind.word?.getD ""
          if kind = policy.fold ":export" then
            (clauses policy rest).map fun (external, internal) =>
              (names ++ external, internal)
          else if kind = policy.fold ":intern" then
            (clauses policy rest).map fun (external, internal) =>
              (external, names ++ internal)
          else .error .unknownClause
  | _ => .error .clauseNotList

/-- The pairs of target and alias that a list of data stands for. -/
def pairs? : List (Datum String) → Option (List (String × String))
  | [] => some []
  | .list [target, key] :: rest =>
      match target.word?, key.word?, pairs? rest with
      | some target, some key, some pairs => some ((target, key) :: pairs)
      | _, _, _ => none
  | _ => none

/-- The directive of a keyword and its arguments. -/
def ofArguments (policy : CasePolicy) (keyword : Keyword)
    (arguments : List (Datum String)) : Except Malformation Directive :=
  match keyword, arguments with
  | .defnamespace, [] => .error .missingName
  | .defnamespace, name :: rest =>
      match name.word? with
      | none => .error .nameNotWord
      | some name =>
          (clauses policy rest).map fun (external, internal) => define name external internal
  | .inNamespace, [name] =>
      match name.word? with
      | none => .error .nameNotWord
      | some name => .ok (enter name)
  | .inNamespace, _ => .error .notOneName
  | .aliases, entries =>
      match pairs? entries with
      | none => .error .notPair
      | some pairs => .ok (setAliases pairs)

/-- The directive that a datum stands for, or what is wrong with it, if the datum is a list
that starts with a keyword. -/
def ofDatum? (policy : CasePolicy) (datum : Datum String) :
    Option (Keyword × Except Malformation Directive) :=
  match datum with
  | .list (.symbol head :: arguments) =>
      (Keyword.ofName? policy head).map fun keyword =>
        (keyword, ofArguments policy keyword arguments)
  | _ => none

end Directive

end AliasReader
