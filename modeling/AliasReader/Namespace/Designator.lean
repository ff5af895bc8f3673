import AliasReader.Namespace.Handle
import AliasReader.Text.Quoted

/-!
# Designators

A designator says which namespace is meant, either by a handle or by a name. A name is
looked up each time the designator is used, so it may be given before its namespace exists.
-/

namespace AliasReader

/-- Something that says which namespace is meant. -/
inductive Designator where
  /-- The namespace with this handle. -/
  | handle (id : NamespaceId)
  /-- The namespace with this name or nickname. -/
  | named (name : String)
deriving DecidableEq, Repr

namespace Designator

/-- The designator as messages show it. -/
def text : Designator → String
  | handle id => "#<namespace " ++ toString id.index ++ ">"
  | named name => name

/-- The designator as it appears in a description. -/
def inspect : Designator → String
  | handle id => "Handle(" ++ id.inspect ++ ")"
  | named name => "Name(" ++ Quoted.text name ++ ")"

end Designator

end AliasReader
