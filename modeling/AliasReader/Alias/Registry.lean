import AliasReader.Alias.Table
import AliasReader.Alias.Token
import AliasReader.Namespace.SymbolTable

/-!
# Alias Registries

A registry holds the alias table of every namespace for which aliases were given. Giving
aliases for a namespace replaces its table; nothing of the earlier table remains. A
designator is looked up when its alias is used, not when it is given.

## Main definitions

* `AliasRegistry.set` and `AliasRegistry.register`: give a namespace aliases, as they are or
  folded;
* `AliasRegistry.resolve`: the namespace behind an alias;
* `AliasRegistry.aliasesOf`: the aliases of a namespace.
-/

namespace AliasReader

/-- The alias tables of namespaces. -/
structure AliasRegistry where
  /-- The table of each namespace for which aliases were given. -/
  tables : Dictionary NamespaceId AliasTable
deriving DecidableEq

namespace AliasRegistry

/-- The registry without tables. -/
def empty : AliasRegistry := ⟨.empty⟩

/-- The alias table of a namespace. -/
def table? (registry : AliasRegistry) (id : NamespaceId) : Option AliasTable :=
  registry.tables.find? id

/-- The number of namespaces that have an alias table. -/
def size (registry : AliasRegistry) : Nat := registry.tables.size

/-- Whether no namespace has an alias table. -/
def isEmpty (registry : AliasRegistry) : Bool := registry.tables.entries.isEmpty

/-- Replace the alias table of a namespace. -/
def replace (registry : AliasRegistry) (id : NamespaceId) (table : AliasTable) :
    AliasRegistry :=
  ⟨registry.tables.insert id table⟩

/-- Replace the aliases of a namespace by the given ones as they are. -/
def set (registry : AliasRegistry) (id : NamespaceId)
    (pairs : List (Designator × String)) : AliasRegistry :=
  registry.replace id (.ofPairs pairs)

/-- Fold the aliases of pairs, in order. -/
def foldPairs (policy : CasePolicy) :
    List (Designator × String) → Except AliasFailure (List (Designator × String))
  | [] => .ok []
  | (designator, key) :: rest =>
      match AliasToken.foldText policy key with
      | .error failure => .error failure
      | .ok folded =>
          match foldPairs policy rest with
          | .error failure => .error failure
          | .ok pairs => .ok ((designator, folded) :: pairs)

/-- Replace the aliases of a namespace by the given ones, folded. Nothing is replaced when
folding fails. -/
def register (registry : AliasRegistry) (id : NamespaceId)
    (pairs : List (Designator × String)) (policy : CasePolicy) :
    Except AliasFailure AliasRegistry :=
  (foldPairs policy pairs).map (registry.set id)

/-- Whether a namespace has an alias. -/
def hasAliases (registry : AliasRegistry) (id : NamespaceId) : Bool :=
  (registry.table? id).any fun table => !table.isEmpty

/-- The namespace that an alias of the namespace `id` stands for. -/
def resolve (registry : AliasRegistry) (host : SymbolTable) (id : NamespaceId)
    (key : String) : Except AliasFailure NamespaceId :=
  match (registry.table? id).bind (·.find? key) with
  | none => .error (.unknownAlias key none)
  | some designator =>
      match host.find? designator with
      | none => .error (.unknownAlias key (some designator.text))
      | some target => .ok target

/-- The aliases of the namespace `id` that stand for `target`, in ascending order. -/
def aliasesOf (registry : AliasRegistry) (host : SymbolTable) (target id : NamespaceId) :
    List String :=
  match registry.table? id with
  | none => []
  | some table =>
      (table.entries.filter fun (_, designator) => host.find? designator = some target).map
        Prod.fst

/-- The registry as it appears in a description. -/
def inspect (registry : AliasRegistry) : String :=
  "AliasRegistry \x7b namespaces: " ++ toString registry.size ++ " \x7d"

/-- After a replacement the namespace has the new table and every other one its own. -/
theorem table?_replace (registry : AliasRegistry) (id other : NamespaceId)
    (table : AliasTable) :
    (registry.replace id table).table? other =
      if other = id then some table else registry.table? other :=
  registry.tables.find?_insert id other table

end AliasRegistry

end AliasReader
