import AliasReader.Dictionary
import AliasReader.Namespace.Designator
import AliasReader.Namespace.Failure
import AliasReader.Namespace.Interner

/-!
# Symbol Tables

A symbol table holds namespaces and symbols. A namespace has a primary name, any number of
nicknames, and the symbols that were made in it, some of which are external. Names and
nicknames of all namespaces share one index, in which no name may stand for two namespaces.

Operations on a handle that names nothing have no answer; `Option` says so. Texts that are
given as names are interned even where the operation is refused or has no answer.

The number of texts, namespaces and symbols is not limited, and no two of them share a handle.
`Arena` is the table with handles of 32 bits. It holds the same while there is a handle for
every text and every symbol (`SymbolTable.Fits`).

## Main definitions

* `NamespaceEntry` and `SymbolEntry`: a namespace and a symbol;
* `SymbolTable`: all of them, with the index of names;
* `SymbolTable.create`, `SymbolTable.rename`, `SymbolTable.intern` and
  `SymbolTable.internExternal`: the operations that change a table;
* `SymbolTable.find?` and `SymbolTable.lookup?`: what a designator and a name stand for.
-/

namespace AliasReader

/-- A namespace. -/
structure NamespaceEntry where
  /-- The primary name. -/
  name : String
  /-- The other names, in order. -/
  nicknames : List String
  /-- The symbols by their names. -/
  symbols : Dictionary String SymbolId
  /-- The symbols that are external. -/
  external : List SymbolId
deriving DecidableEq, Repr

/-- A symbol. -/
structure SymbolEntry where
  /-- The name of the symbol. -/
  name : String
  /-- The namespace in which the symbol was made. -/
  home : NamespaceId
deriving DecidableEq, Repr

/-- Whether a symbol is meant for use outside its namespace. -/
inductive Visibility where
  /-- The symbol is meant for use outside its namespace. -/
  | external
  /-- The symbol is meant for use inside its namespace only. -/
  | internal
deriving DecidableEq, Repr

/-- What a name stands for in a namespace. -/
inductive SymbolLookup where
  /-- The name stands for a symbol of the given visibility. -/
  | found (symbol : SymbolId) (visibility : Visibility)
  /-- The name stands for nothing. -/
  | missing
deriving DecidableEq, Repr

namespace NamespaceEntry

/-- A namespace that has a primary name only. -/
def ofName (name : String) : NamespaceEntry :=
  ⟨name, [], .empty, []⟩

/-- All names of a namespace, the primary one first. -/
def names (entry : NamespaceEntry) : List String :=
  entry.name :: entry.nicknames

/-- The visibility of a symbol of the namespace. -/
def visibility (entry : NamespaceEntry) (symbol : SymbolId) : Visibility :=
  if symbol ∈ entry.external then .external else .internal

/-- What a name stands for in the namespace. -/
def lookup (entry : NamespaceEntry) (name : String) : SymbolLookup :=
  match entry.symbols.find? name with
  | some symbol => .found symbol (entry.visibility symbol)
  | none => .missing

end NamespaceEntry

/-- Namespaces and their symbols. -/
structure SymbolTable where
  /-- Every text that was ever given as a name. -/
  texts : Interner
  /-- The namespaces, in the order of their handles. -/
  namespaces : List NamespaceEntry
  /-- The namespace of each name and nickname. -/
  index : Dictionary String NamespaceId
  /-- The symbols, in the order of their handles. -/
  symbols : List SymbolEntry
deriving DecidableEq, Repr

namespace SymbolTable

/-- The table without namespaces. -/
def empty : SymbolTable := ⟨.new, [], .empty, []⟩

/-- Whether a handle names a namespace of the table. -/
def hasNamespace (table : SymbolTable) (id : NamespaceId) : Bool :=
  id.index < table.namespaces.length

/-- The namespace of a handle. -/
def namespace? (table : SymbolTable) (id : NamespaceId) : Option NamespaceEntry :=
  table.namespaces[id.index]?

/-- The primary name of a namespace. -/
def name? (table : SymbolTable) (id : NamespaceId) : Option String :=
  (table.namespace? id).map NamespaceEntry.name

/-- The nicknames of a namespace. -/
def nicknames? (table : SymbolTable) (id : NamespaceId) : Option (List String) :=
  (table.namespace? id).map NamespaceEntry.nicknames

/-- The namespace that is meant by a designator. -/
def find? (table : SymbolTable) : Designator → Option NamespaceId
  | .handle id => if table.hasNamespace id then some id else none
  | .named name => table.index.find? name

/-- The namespace that is meant by a designator, which has to exist. -/
def require (table : SymbolTable) (designator : Designator) :
    Except NamespaceFailure NamespaceId :=
  match table.find? designator with
  | some id => .ok id
  | none => .error (.unknown designator.text)

/-- The name of a symbol. -/
def symbolName? (table : SymbolTable) (symbol : SymbolId) : Option String :=
  table.symbols[symbol.index]?.map SymbolEntry.name

/-- The namespace in which a symbol was made. -/
def home? (table : SymbolTable) (symbol : SymbolId) : Option NamespaceId :=
  table.symbols[symbol.index]?.map SymbolEntry.home

/-- The visibility of a symbol in its namespace. -/
def visibility? (table : SymbolTable) (symbol : SymbolId) : Option Visibility := do
  let home ← table.home? symbol
  let entry ← table.namespace? home
  return entry.visibility symbol

/-- What a name stands for in a namespace. A text that was never given as a name stands for
nothing in any namespace; for other texts the handle has to name a namespace. -/
def lookup? (table : SymbolTable) (id : NamespaceId) (name : String) : Option SymbolLookup :=
  match table.texts.get? name with
  | none => some .missing
  | some _ => (table.namespace? id).map (·.lookup name)

/-- The table in which texts were given as names. -/
def noteNames (table : SymbolTable) (names : List String) : SymbolTable :=
  { table with texts := table.texts.internAll names }

/-- The failure that says that a name belongs to `owner`. -/
def inUse (table : SymbolTable) (name : String) (owner : NamespaceId) : NamespaceFailure :=
  .nameInUse name ((table.name? owner).getD "")

/-- Make a namespace with a name that no other namespace has. -/
def create (table : SymbolTable) (name : String) :
    Except NamespaceFailure NamespaceId × SymbolTable :=
  let table := table.noteNames [name]
  match table.index.find? name with
  | some owner => (.error (table.inUse name owner), table)
  | none =>
      -- handles are issued in the order of creation
      let id : NamespaceId := ⟨table.namespaces.length⟩
      (.ok id,
        { table with
          namespaces := table.namespaces ++ [.ofName name]
          index := table.index.insert name id })

/-- The table with one namespace changed. -/
def modify (table : SymbolTable) (id : NamespaceId)
    (change : NamespaceEntry → NamespaceEntry) : SymbolTable :=
  { table with namespaces := table.namespaces.modify id.index change }

/-- The symbol of a name in a namespace, which is made as an internal symbol if the name
stands for nothing there. -/
def intern (table : SymbolTable) (id : NamespaceId) (name : String) :
    Option SymbolId × SymbolTable :=
  let table := table.noteNames [name]
  match table.namespace? id with
  | none => (none, table)
  | some entry =>
      match entry.symbols.find? name with
      | some symbol => (some symbol, table)
      | none =>
          let symbol : SymbolId := ⟨table.symbols.length⟩
          let table := table.modify id fun entry =>
            { entry with symbols := entry.symbols.insert name symbol }
          (some symbol, { table with symbols := table.symbols ++ [⟨name, id⟩] })

/-- The symbol of a name in a namespace, made if it is missing, and external from now
on. -/
def internExternal (table : SymbolTable) (id : NamespaceId) (name : String) :
    Option SymbolId × SymbolTable :=
  match table.intern id name with
  | (none, table) => (none, table)
  | (some symbol, table) =>
      (some symbol, table.modify id fun entry =>
        if symbol ∈ entry.external then entry
        else { entry with external := symbol :: entry.external })

/-- The first of the names that belongs to a namespace other than `id`, and its owner. -/
def conflict? (table : SymbolTable) (id : NamespaceId) (names : List String) :
    Option (String × NamespaceId) :=
  names.findSome? fun name =>
    match table.index.find? name with
    | some owner => if owner = id then none else some (name, owner)
    | none => none

/-- Give a namespace a primary name and nicknames in place of its earlier ones. The request
is refused as a whole when one of them belongs to another namespace, and has no answer when
the handle names nothing. -/
def rename (table : SymbolTable) (id : NamespaceId) (name : String)
    (nicknames : List String) : Option (Except NamespaceFailure Unit) × SymbolTable :=
  let table := table.noteNames (name :: nicknames)
  match table.conflict? id (name :: nicknames) with
  | some (taken, owner) => (some (.error (table.inUse taken owner)), table)
  | none =>
      match table.namespace? id with
      | none => (none, table)
      | some entry =>
          -- all earlier names are given up before the new ones are taken
          let freed := entry.names.foldl Dictionary.erase table.index
          let index := (name :: nicknames).foldl (·.insert · id) freed
          (some (.ok ()),
            { table.modify id fun entry => { entry with name, nicknames } with index })

/-- The name of a symbol behind the name of its namespace, with one colon between them if
the symbol is external and two if it is internal. -/
def qualifiedName? (table : SymbolTable) (symbol : SymbolId) : Option String := do
  let name ← table.symbolName? symbol
  let home ← table.home? symbol
  let entry ← table.namespace? home
  let colons := match entry.visibility symbol with
    | .external => ":"
    | .internal => "::"
  return entry.name ++ colons ++ name

end SymbolTable

end AliasReader
