/-!
# Handles

Namespaces, symbols and interned texts are referred to by small numbers in the order of
their creation.
-/

namespace AliasReader

/-- The handle of an interned text. -/
structure Name where
  /-- The place of the text in the order of interning. -/
  index : Nat
deriving DecidableEq, Repr

namespace Name

/-- The handle of the empty text. -/
def empty : Name := ⟨0⟩

/-- The handle as it appears in a description. -/
def inspect (name : Name) : String :=
  "Name(" ++ toString name.index ++ ")"

end Name

/-- The handle of a namespace. -/
structure NamespaceId where
  /-- The place of the namespace in the order of creation. -/
  index : Nat
deriving DecidableEq, Repr

namespace NamespaceId

instance : LT NamespaceId := ⟨fun a b => a.index < b.index⟩

instance : DecidableLT NamespaceId := fun a b => inferInstanceAs (Decidable (a.index < b.index))

/-- The handle as it appears in a description. -/
def inspect (id : NamespaceId) : String :=
  "NamespaceId(" ++ toString id.index ++ ")"

end NamespaceId

/-- The handle of a symbol. -/
structure SymbolId where
  /-- The place of the symbol in the order of creation. -/
  index : Nat
deriving DecidableEq, Repr

namespace SymbolId

/-- The handle as it appears in a description. -/
def inspect (id : SymbolId) : String :=
  "SymbolId(" ++ toString id.index ++ ")"

end SymbolId

end AliasReader
