import AliasReader.Proofs.Namespace.History
import AliasReader.Proofs.Namespace.NameTables

/-!
# Arenas of Namespaces and Symbols

A symbol table can be kept in arrays. The handle of a namespace or of a symbol is its place in 32
bits, names are the handles of interned texts, and hash tables lead from names to namespaces and
symbols. `Arena` does so, and answers the requests to a symbol table.

Two numbers are limited. An interner without a handle for a text stops the program. An array, on the
other hand, just goes on: all places that have no number of 32 bits get the last one, so that
symbols behind it share a handle.

## Main definitions

* `NamespaceId.ofPlace` and `SymbolId.ofPlace`: the handles of places, in 32 bits;
* `Arena`: namespaces and symbols in arrays, with their names interned;
* `Arena.reply` and `Arena.perform`: how an arena answers requests;
* `Arena.after`: the arena that requests lead to.

## Main results

* `Arena.intern_of_full`: beyond the limit new symbols share one handle.
-/

namespace AliasReader

/-! ## Handles of 32 bits -/

/-- The handle of the namespace at a place. -/
def NamespaceId.ofPlace (place : Nat) : NamespaceId :=
  ⟨(UInt32.ofNatClamp place).toNat⟩

/-- The handle of the symbol at a place. -/
def SymbolId.ofPlace (place : Nat) : SymbolId :=
  ⟨(UInt32.ofNatClamp place).toNat⟩

theorem NamespaceId.ofPlace_of_lt {place : Nat} (h : place < UInt32.size) :
    ofPlace place = ⟨place⟩ :=
  congrArg NamespaceId.mk (UInt32.toNat_ofNatClamp_of_lt h)

theorem SymbolId.ofPlace_of_lt {place : Nat} (h : place < UInt32.size) :
    ofPlace place = ⟨place⟩ :=
  congrArg SymbolId.mk (UInt32.toNat_ofNatClamp_of_lt h)

/-- All places that have no number of 32 bits have the last handle. -/
theorem SymbolId.ofPlace_of_le {place : Nat} (h : UInt32.size ≤ place) :
    ofPlace place = ⟨UInt32.size - 1⟩ :=
  congrArg SymbolId.mk (UInt32.toNat_ofNatClamp_of_le h)

instance : Hashable SymbolId := ⟨fun symbol => hash symbol.index⟩

/-! ## Arenas -/

/-- A namespace of an arena. -/
structure ArenaNamespace where
  /-- The primary name. -/
  name : Name
  /-- The other names, in order. -/
  nicknames : List Name
  /-- The symbols by their names. -/
  symbols : Std.HashMap Name SymbolId
  /-- The symbols that are external. -/
  external : Std.HashSet SymbolId

namespace ArenaNamespace

/-- A namespace that has a primary name only. -/
def ofName (name : Name) : ArenaNamespace := ⟨name, [], ∅, ∅⟩

/-- The visibility of a symbol in the namespace. -/
def visibility (cell : ArenaNamespace) (symbol : SymbolId) : Visibility :=
  if symbol ∈ cell.external then .external else .internal

/-- What a name stands for in the namespace. -/
def lookup (cell : ArenaNamespace) (name : Name) : SymbolLookup :=
  match cell.symbols[name]? with
  | some symbol => .found symbol (cell.visibility symbol)
  | none => .missing

end ArenaNamespace

/-- A symbol of an arena. -/
structure ArenaSymbol where
  /-- The name of the symbol. -/
  name : Name
  /-- The namespace in which the symbol was made. -/
  home : NamespaceId

/-- Namespaces and symbols in arrays, with their names interned. -/
structure Arena where
  /-- Every text that was ever given as a name. -/
  texts : IndexedInterner
  /-- The namespaces, each at the place that its handle tells. -/
  namespaces : Array ArenaNamespace
  /-- The namespace of each name and nickname. -/
  index : Std.HashMap Name NamespaceId
  /-- The symbols, each at the place that its handle tells. -/
  symbols : Array ArenaSymbol

/-- What a request is answered with. -/
inductive Reply where
  /-- A namespace was made. -/
  | made (id : NamespaceId)
  /-- The name stands for a symbol from now on. -/
  | symbol (symbol : SymbolId)
  /-- The namespace has the given names from now on. -/
  | renamed
  /-- The request is refused. -/
  | refused (failure : NamespaceFailure)
  /-- The program stops. -/
  | stopped
deriving DecidableEq, Repr

/-- The reply to a request that is granted or refused, or that stops the program. -/
def Reply.of {α : Type} (granted : α → Reply) : Option (Except NamespaceFailure α) → Reply
  | some (.ok result) => granted result
  | some (.error failure) => .refused failure
  | none => .stopped

namespace Arena

/-- The arena without namespaces. -/
def new : Arena := ⟨.new, #[], ∅, #[]⟩

/-- The namespace of a handle. -/
def namespace? (arena : Arena) (id : NamespaceId) : Option ArenaNamespace :=
  arena.namespaces[id.index]?

/-- Whether a handle names a namespace of the arena. -/
def hasNamespace (arena : Arena) (id : NamespaceId) : Bool :=
  id.index < arena.namespaces.size

/-- The primary name of a namespace. -/
def name? (arena : Arena) (id : NamespaceId) : Option String := do
  let cell ← arena.namespace? id
  arena.texts.lookup? cell.name

/-- The namespace that is meant by a designator. -/
def find? (arena : Arena) : Designator → Option NamespaceId
  | .handle id => if arena.hasNamespace id then some id else none
  | .named text => do
      let name ← arena.texts.get? text
      arena.index[name]?

/-- The name of a symbol. -/
def symbolName? (arena : Arena) (symbol : SymbolId) : Option String := do
  let cell ← arena.symbols[symbol.index]?
  arena.texts.lookup? cell.name

/-- The namespace in which a symbol was made. -/
def home? (arena : Arena) (symbol : SymbolId) : Option NamespaceId :=
  arena.symbols[symbol.index]?.map ArenaSymbol.home

/-- The visibility of a symbol in its namespace. -/
def visibility? (arena : Arena) (symbol : SymbolId) : Option Visibility := do
  let home ← arena.home? symbol
  let cell ← arena.namespace? home
  return cell.visibility symbol

/-- What a text stands for in a namespace. A text that was never given as a name stands for nothing
in any namespace; for other texts the handle has to name a namespace. -/
def lookup? (arena : Arena) (id : NamespaceId) (text : String) : Option SymbolLookup :=
  match arena.texts.get? text with
  | none => some .missing
  | some name => (arena.namespace? id).map (·.lookup name)

/-- Intern a text. The program stops if there is no handle for it. -/
def note (arena : Arena) (text : String) : Option Name × Arena :=
  match arena.texts.tryIntern text with
  | (.ok name, texts) => (some name, { arena with texts })
  | (.error _, texts) => (none, { arena with texts })

/-- Intern texts one after the other. -/
def noteAll (arena : Arena) : List String → Option (List Name) × Arena
  | [] => (some [], arena)
  | text :: rest =>
    match arena.note text with
    | (none, noted) => (none, noted)
    | (some name, noted) =>
      match noted.noteAll rest with
      | (none, noted) => (none, noted)
      | (some names, noted) => (some (name :: names), noted)

/-- The arena with one namespace changed. -/
def modify (arena : Arena) (id : NamespaceId) (change : ArenaNamespace → ArenaNamespace) :
    Arena :=
  { arena with namespaces := arena.namespaces.modify id.index change }

/-- The arena with a namespace behind the others. -/
def addNamespace (arena : Arena) (name : Name) : Arena :=
  { arena with
    namespaces := arena.namespaces.push (.ofName name)
    index := arena.index.insert name (.ofPlace arena.namespaces.size) }

/-- The arena with a symbol behind the others, bound in its namespace. -/
def addSymbol (arena : Arena) (id : NamespaceId) (name : Name) : Arena :=
  { arena.modify id fun cell =>
      { cell with symbols := cell.symbols.insert name (.ofPlace arena.symbols.size) } with
    symbols := arena.symbols.push ⟨name, id⟩ }

/-- The arena with a symbol external in a namespace. -/
def expose (arena : Arena) (id : NamespaceId) (symbol : SymbolId) : Arena :=
  arena.modify id fun cell => { cell with external := cell.external.insert symbol }

/-- The arena in which a namespace has other names. All names that it had are given up before the
new ones are taken. -/
def replaceNames (arena : Arena) (id : NamespaceId) (old : List Name) (name : Name)
    (nicknames : List Name) : Arena :=
  { arena.modify id fun cell => { cell with name, nicknames } with
    index := (name :: nicknames).foldl (·.insert · id)
      (old.foldl Std.HashMap.erase arena.index) }

/-- The failure that says that a name belongs to `owner`. -/
def inUse? (arena : Arena) (text : String) (owner : NamespaceId) : Option NamespaceFailure :=
  (arena.name? owner).map (.nameInUse text)

/-- Make a namespace with a name that no other namespace has. -/
def create (arena : Arena) (text : String) :
    Option (Except NamespaceFailure NamespaceId) × Arena :=
  match arena.note text with
  | (none, noted) => (none, noted)
  | (some name, noted) =>
    match noted.index[name]? with
    | some owner => ((noted.inUse? text owner).map .error, noted)
    | none => (some (.ok (.ofPlace noted.namespaces.size)), noted.addNamespace name)

/-- The symbol of a name in a namespace, which is made as an internal symbol if the name stands for
nothing there. -/
def intern (arena : Arena) (id : NamespaceId) (text : String) : Option SymbolId × Arena :=
  match arena.note text with
  | (none, noted) => (none, noted)
  | (some name, noted) =>
    match noted.namespace? id with
    | none => (none, noted)
    | some cell =>
      match cell.symbols[name]? with
      | some symbol => (some symbol, noted)
      | none => (some (.ofPlace noted.symbols.size), noted.addSymbol id name)

/-- The symbol of a name in a namespace, made if it is missing, and external from now on. -/
def internExternal (arena : Arena) (id : NamespaceId) (text : String) : Option SymbolId × Arena :=
  match arena.intern id text with
  | (none, after) => (none, after)
  | (some symbol, after) => (some symbol, after.expose id symbol)

/-- The first of the names that belongs to a namespace other than `id`, as a text, and its
owner. -/
def conflict? (arena : Arena) (id : NamespaceId) (names : List (Name × String)) :
    Option (String × NamespaceId) :=
  names.findSome? fun (name, text) =>
    match arena.index[name]? with
    | some owner => if owner = id then none else some (text, owner)
    | none => none

/-- Give a namespace other names, which are interned as `name` and `nicknames`. -/
def takeNames (arena : Arena) (id : NamespaceId) (name : Name) (nicknames : List Name)
    (given : List String) : Option (Except NamespaceFailure Unit) × Arena :=
  match arena.conflict? id ((name :: nicknames).zip given) with
  | some (taken, owner) => ((arena.inUse? taken owner).map .error, arena)
  | none =>
    match arena.namespace? id with
    | none => (none, arena)
    | some cell =>
      (some (.ok ()), arena.replaceNames id (cell.name :: cell.nicknames) name nicknames)

/-- Give a namespace a primary name and nicknames in place of its earlier ones. -/
def rename (arena : Arena) (id : NamespaceId) (text : String) (nicknames : List String) :
    Option (Except NamespaceFailure Unit) × Arena :=
  match arena.note text with
  | (none, noted) => (none, noted)
  | (some name, noted) =>
    match noted.noteAll nicknames with
    | (none, noted) => (none, noted)
    | (some names, noted) => noted.takeNames id name names (text :: nicknames)

/-- What a request is answered with. -/
def reply (arena : Arena) : SymbolTable.Request → Reply
  | .create text => .of .made (arena.create text).1
  | .intern id text => .of .symbol ((arena.intern id text).1.map .ok)
  | .internExternal id text => .of .symbol ((arena.internExternal id text).1.map .ok)
  | .rename id text nicknames => .of (fun () => .renamed) (arena.rename id text nicknames).1

/-- The arena that a request leaves, also when the program stops. -/
def perform (arena : Arena) : SymbolTable.Request → Arena
  | .create text => (arena.create text).2
  | .intern id text => (arena.intern id text).2
  | .internExternal id text => (arena.internExternal id text).2
  | .rename id text nicknames => (arena.rename id text nicknames).2

/-- The arena that requests to a new one leave. -/
def after (requests : List SymbolTable.Request) : Arena :=
  requests.foldl perform new

/-- In an arena with a symbol for every handle, a further symbol gets a handle that another one
has: all places that have no number of 32 bits get the last one. -/
theorem intern_of_full {arena noted : Arena} {id : NamespaceId} {text : String} {name : Name}
    {cell : ArenaNamespace} (hnote : arena.note text = (some name, noted))
    (hcell : noted.namespace? id = some cell) (hnew : cell.symbols[name]? = none)
    (hfull : UInt32.size ≤ noted.symbols.size) :
    (arena.intern id text).1 = some ⟨UInt32.size - 1⟩ := by
  unfold intern
  simp only [hnote, hcell, hnew]
  rw [SymbolId.ofPlace_of_le hfull]

end Arena

/-- What a request to a symbol table is answered with. -/
def SymbolTable.reply (table : SymbolTable) : Request → Reply
  | .create name => .of .made (some (table.create name).1)
  | .intern id name => .of .symbol ((table.intern id name).1.map .ok)
  | .internExternal id name => .of .symbol ((table.internExternal id name).1.map .ok)
  | .rename id name nicknames => .of (fun () => .renamed) (table.rename id name nicknames).1

end AliasReader
