import AliasReader.Namespace.SymbolTable
import Mathlib.Tactic.Common

/-!
# Histories of Symbol Tables

Every symbol table that a program can hold was made from the empty one by requests, some of
which were refused. This module names the requests and describes what each of them leaves of
the parts of a table: its namespaces, the symbols bound in them, and the index of names.

## Main definitions

* `SymbolTable.Request` and `SymbolTable.perform`: the requests and what they leave;
* `SymbolTable.Reachable`: the tables that requests lead to;
* `SymbolTable.Binds` and `SymbolTable.Owns`: the symbol of a name, seen from the namespace and
  seen from the symbol.
-/

namespace AliasReader

/-! ## Interned texts -/

namespace Interner

/-- A text has a handle exactly when it was interned. -/
theorem get?_eq_none_iff (interner : Interner) (text : String) :
    interner.get? text = none ↔ text ∉ interner.texts := by
  rw [get?, Option.map_eq_none_iff, List.findIdx?_eq_none_iff]
  -- the two sides differ in the order of the compared texts
  constructor
  · intro h hmem
    simpa using h text hmem
  · intro h other hother
    simp only [decide_eq_false_iff_not]
    rintro rfl
    exact h hother

/-- The handle of a text leads back to it. -/
theorem lookup?_of_get? {interner : Interner} {text : String} {name : Name}
    (h : interner.get? text = some name) : interner.lookup? name = some text := by
  obtain ⟨index, hfind, rfl⟩ := Option.map_eq_some_iff.1 h
  obtain ⟨hindex, htext, -⟩ := List.findIdx?_eq_some_iff_getElem.1 hfind
  exact List.getElem?_eq_some_iff.2 ⟨hindex, by simpa using htext⟩

/-- A text is put behind the others unless it is among them. -/
theorem texts_intern (interner : Interner) (text : String) :
    (interner.intern text).2.texts =
      if text ∈ interner.texts then interner.texts else interner.texts ++ [text] := by
  unfold intern
  cases hget : interner.get? text with
  | none => rw [if_neg ((interner.get?_eq_none_iff text).1 hget)]
  | some name =>
    have hmem : text ∈ interner.texts := List.mem_of_getElem? (lookup?_of_get? hget)
    rw [if_pos hmem]

/-- Interning a text adds at most that text. -/
theorem mem_texts_intern (interner : Interner) (text other : String) :
    other ∈ (interner.intern text).2.texts ↔ other = text ∨ other ∈ interner.texts := by
  rw [texts_intern]
  split
  case isTrue hmem =>
    -- nothing is added, but the text is there already
    constructor
    · exact Or.inr
    · rintro (rfl | h)
      · exact hmem
      · exact h
  case isFalse => simp [or_comm]

/-- Interning texts one after the other takes up the first and then the rest. -/
theorem internAll_cons (interner : Interner) (text : String) (texts : List String) :
    interner.internAll (text :: texts) = (interner.intern text).2.internAll texts := rfl

/-- Interning a list of texts adds exactly those texts. -/
theorem mem_texts_internAll (interner : Interner) (texts : List String) (other : String) :
    other ∈ (interner.internAll texts).texts ↔ other ∈ texts ∨ other ∈ interner.texts := by
  induction texts generalizing interner with
  | nil => simp [internAll]
  | cons text texts ih =>
    rw [internAll_cons, ih, mem_texts_intern, List.mem_cons]
    tauto

end Interner

/-! ## The index of names under a renaming

A renaming erases the earlier names of a namespace from the index and then puts its handle under
the new ones. -/

namespace Dictionary

variable {κ ν : Type} [DecidableEq κ]

theorem find?_foldl_erase (d : Dictionary κ ν) (keys : List κ) (j : κ) :
    (keys.foldl erase d).find? j = if j ∈ keys then none else d.find? j := by
  induction keys generalizing d with
  | nil => simp
  | cons k keys ih =>
    -- a key may come up again later, so both memberships are split
    rw [List.foldl_cons, ih, find?_erase]
    by_cases hj : j = k <;> by_cases hmem : j ∈ keys <;> simp [hj, hmem]

theorem find?_foldl_insert [LT κ] [DecidableLT κ] (d : Dictionary κ ν) (keys : List κ)
    (v : ν) (j : κ) :
    (keys.foldl (·.insert · v) d).find? j = if j ∈ keys then some v else d.find? j := by
  induction keys generalizing d with
  | nil => simp
  | cons k keys ih =>
    rw [List.foldl_cons, ih, find?_insert]
    by_cases hj : j = k <;> by_cases hmem : j ∈ keys <;> simp [hj, hmem]

end Dictionary

namespace NamespaceEntry

/-- The namespace with a name bound to a symbol. -/
def bindSymbol (name : String) (symbol : SymbolId) (entry : NamespaceEntry) : NamespaceEntry :=
  { entry with symbols := entry.symbols.insert name symbol }

/-- The namespace with a symbol external in it. -/
def exposeSymbol (symbol : SymbolId) (entry : NamespaceEntry) : NamespaceEntry :=
  if symbol ∈ entry.external then entry
  else { entry with external := symbol :: entry.external }

/-- The namespace with other names. -/
def withNames (name : String) (nicknames : List String) (entry : NamespaceEntry) :
    NamespaceEntry :=
  { entry with name, nicknames }

theorem names_bindSymbol (name : String) (symbol : SymbolId) (entry : NamespaceEntry) :
    (entry.bindSymbol name symbol).names = entry.names := rfl

theorem symbols_withNames (name : String) (nicknames : List String) (entry : NamespaceEntry) :
    (entry.withNames name nicknames).symbols = entry.symbols := rfl

theorem names_exposeSymbol (symbol : SymbolId) (entry : NamespaceEntry) :
    (entry.exposeSymbol symbol).names = entry.names := by
  unfold exposeSymbol
  split <;> rfl

theorem symbols_exposeSymbol (symbol : SymbolId) (entry : NamespaceEntry) :
    (entry.exposeSymbol symbol).symbols = entry.symbols := by
  unfold exposeSymbol
  split <;> rfl

end NamespaceEntry

namespace SymbolTable

/-! ## Requests -/

/-- A request that may change a symbol table. -/
inductive Request where
  /-- Make a namespace. -/
  | create (name : String)
  /-- Make a symbol, unless it is there. -/
  | intern (id : NamespaceId) (name : String)
  /-- Make a symbol, unless it is there, and make it external. -/
  | internExternal (id : NamespaceId) (name : String)
  /-- Give a namespace other names. -/
  | rename (id : NamespaceId) (name : String) (nicknames : List String)
deriving DecidableEq, Repr

/-- The table that a request leaves, whether it is granted, refused or without an answer. -/
def perform (table : SymbolTable) : Request → SymbolTable
  | .create name => (table.create name).2
  | .intern id name => (table.intern id name).2
  | .internExternal id name => (table.internExternal id name).2
  | .rename id name nicknames => (table.rename id name nicknames).2

/-- The table that a list of requests leaves. -/
def performAll (table : SymbolTable) (requests : List Request) : SymbolTable :=
  requests.foldl perform table

/-- The tables that requests lead to from the table without namespaces. -/
inductive Reachable : SymbolTable → Prop
  | empty : Reachable .empty
  | perform {table : SymbolTable} (request : Request) :
      Reachable table → Reachable (table.perform request)

/-- A list of requests leads from a reachable table to a reachable one. -/
theorem Reachable.performAll {table : SymbolTable} (h : table.Reachable)
    (requests : List Request) : (table.performAll requests).Reachable := by
  induction requests generalizing table with
  | nil => exact h
  | cons request requests ih => exact ih (h.perform request)

/-! ## Namespaces, symbols and names of a table -/

/-- In a namespace a name is bound to a symbol. -/
def Binds (table : SymbolTable) (id : NamespaceId) (name : String) (symbol : SymbolId) :
    Prop :=
  ∃ entry, table.namespace? id = some entry ∧ entry.symbols.find? name = some symbol

/-- A symbol was made in a namespace under a name. -/
def Owns (table : SymbolTable) (id : NamespaceId) (name : String) (symbol : SymbolId) : Prop :=
  table.home? symbol = some id ∧ table.symbolName? symbol = some name

/-- A namespace goes by a name, as its primary name or as a nickname. -/
def GoesBy (table : SymbolTable) (id : NamespaceId) (name : String) : Prop :=
  ∃ entry, table.namespace? id = some entry ∧ name ∈ entry.names

/-- A handle names a namespace exactly when there is an entry for it. -/
theorem hasNamespace_iff (table : SymbolTable) (id : NamespaceId) :
    table.hasNamespace id = true ↔ ∃ entry, table.namespace? id = some entry := by
  simp [hasNamespace, namespace?, List.getElem?_eq_some_iff]

theorem namespace?_eq_none_iff (table : SymbolTable) (id : NamespaceId) :
    table.namespace? id = none ↔ table.namespaces.length ≤ id.index := by
  simp [namespace?]

/-- The home and the name of a symbol are those of its entry. -/
theorem owns_iff (table : SymbolTable) (id : NamespaceId) (name : String)
    (symbol : SymbolId) :
    table.Owns id name symbol ↔ table.symbols[symbol.index]? = some ⟨name, id⟩ := by
  unfold Owns home? symbolName?
  cases table.symbols[symbol.index]? with
  | none => simp
  | some entry =>
    obtain ⟨entryName, home⟩ := entry
    simp [and_comm]

/-- A symbol has one home and one name. -/
theorem Owns.unique {table : SymbolTable} {id other : NamespaceId} {name otherName : String}
    {symbol : SymbolId} (h : table.Owns id name symbol) (h' : table.Owns other otherName symbol) :
    id = other ∧ name = otherName :=
  ⟨Option.some.inj (h.1.symm.trans h'.1), Option.some.inj (h.2.symm.trans h'.2)⟩

/-- Changing one namespace leaves the others. -/
theorem namespace?_modify (table : SymbolTable) (id other : NamespaceId)
    (change : NamespaceEntry → NamespaceEntry) :
    (table.modify id change).namespace? other =
      if other = id then (table.namespace? other).map change else table.namespace? other := by
  obtain ⟨i⟩ := id
  obtain ⟨j⟩ := other
  simp only [modify, namespace?, List.getElem?_modify, NamespaceId.mk.injEq]
  by_cases h : i = j
  · simp [h]
  · simp [h, Ne.symm h]

/-- A change that keeps the symbols of a namespace keeps what names are bound to. -/
theorem binds_modify {table : SymbolTable} {id : NamespaceId}
    {change : NamespaceEntry → NamespaceEntry}
    (hchange : ∀ entry, (change entry).symbols = entry.symbols) (other : NamespaceId)
    (name : String) (symbol : SymbolId) :
    (table.modify id change).Binds other name symbol ↔ table.Binds other name symbol := by
  unfold Binds
  rw [namespace?_modify]
  by_cases h : other = id
  · simp [h, hchange]
  · simp [h]

/-- A change that keeps the names of a namespace keeps what namespaces go by. -/
theorem goesBy_modify {table : SymbolTable} {id : NamespaceId}
    {change : NamespaceEntry → NamespaceEntry}
    (hchange : ∀ entry, (change entry).names = entry.names) (other : NamespaceId)
    (name : String) :
    (table.modify id change).GoesBy other name ↔ table.GoesBy other name := by
  unfold GoesBy
  rw [namespace?_modify]
  by_cases h : other = id
  · simp [h, hchange]
  · simp [h]

/-! ## Additions and replacements

A request that is granted notes the given texts and then makes one of the following changes. -/

/-- The table with a namespace behind the others. -/
def addNamespace (table : SymbolTable) (name : String) : SymbolTable :=
  { table with
    namespaces := table.namespaces ++ [.ofName name]
    index := table.index.insert name ⟨table.namespaces.length⟩ }

/-- The table with a symbol behind the others, bound in its namespace. -/
def addSymbol (table : SymbolTable) (id : NamespaceId) (name : String) : SymbolTable :=
  { table.modify id (NamespaceEntry.bindSymbol name ⟨table.symbols.length⟩) with
    symbols := table.symbols ++ [⟨name, id⟩] }

/-- The table with a symbol external in a namespace. -/
def expose (table : SymbolTable) (id : NamespaceId) (symbol : SymbolId) : SymbolTable :=
  table.modify id (NamespaceEntry.exposeSymbol symbol)

/-- The table in which a namespace has new names in place of the old ones. -/
def replaceNames (table : SymbolTable) (id : NamespaceId) (old : List String) (name : String)
    (nicknames : List String) : SymbolTable :=
  { table.modify id (NamespaceEntry.withNames name nicknames) with
    index := (name :: nicknames).foldl (·.insert · id) (old.foldl Dictionary.erase table.index) }

/-- The added namespace has the next handle. -/
theorem namespace?_addNamespace (table : SymbolTable) (name : String) (id : NamespaceId) :
    (table.addNamespace name).namespace? id =
      if id = ⟨table.namespaces.length⟩ then some (.ofName name) else table.namespace? id := by
  obtain ⟨i⟩ := id
  simp only [namespace?, addNamespace, NamespaceId.mk.injEq]
  -- before, at and behind the handle of the added namespace
  rcases Nat.lt_trichotomy i table.namespaces.length with hlt | rfl | hgt
  · simp [List.getElem?_append_left hlt, Nat.ne_of_lt hlt]
  · simp
  · have hend : (table.namespaces ++ [NamespaceEntry.ofName name])[i]? = none := by
      rw [List.getElem?_eq_none_iff, List.length_append]
      exact hgt
    rw [hend, if_neg (Nat.ne_of_gt hgt), List.getElem?_eq_none (Nat.le_of_lt hgt)]

theorem namespace?_next (table : SymbolTable) :
    table.namespace? ⟨table.namespaces.length⟩ = none :=
  (table.namespace?_eq_none_iff _).2 (Nat.le_refl _)

/-- The namespaces of a table are other ones than the one that is made next. -/
theorem ne_next {table : SymbolTable} {id : NamespaceId} (h : table.hasNamespace id = true) :
    id ≠ ⟨table.namespaces.length⟩ := by
  rintro rfl
  simp [hasNamespace] at h

/-- The added namespace goes by its name, and the others by the names that they had. -/
theorem goesBy_addNamespace (table : SymbolTable) (name : String) (id : NamespaceId)
    (other : String) :
    (table.addNamespace name).GoesBy id other ↔
      (id = ⟨table.namespaces.length⟩ ∧ other = name) ∨ table.GoesBy id other := by
  unfold GoesBy
  rw [namespace?_addNamespace]
  by_cases h : id = ⟨table.namespaces.length⟩
  · simp [h, namespace?_next, NamespaceEntry.names, NamespaceEntry.ofName]
  · simp [h]

theorem binds_addNamespace (table : SymbolTable) (name : String) (id : NamespaceId)
    (other : String) (symbol : SymbolId) :
    (table.addNamespace name).Binds id other symbol ↔ table.Binds id other symbol := by
  unfold Binds
  rw [namespace?_addNamespace]
  by_cases h : id = ⟨table.namespaces.length⟩
  · simp [h, namespace?_next, NamespaceEntry.ofName]
  · simp [h]

/-- The added symbol has the next handle, its home and its name. -/
theorem owns_addSymbol (table : SymbolTable) (id : NamespaceId) (name : String)
    (other : NamespaceId) (otherName : String) (symbol : SymbolId) :
    (table.addSymbol id name).Owns other otherName symbol ↔
      (other = id ∧ otherName = name ∧ symbol = ⟨table.symbols.length⟩) ∨
        table.Owns other otherName symbol := by
  obtain ⟨i⟩ := symbol
  simp only [owns_iff, addSymbol, SymbolId.mk.injEq]
  -- before, at and behind the handle of the added symbol
  rcases Nat.lt_trichotomy i table.symbols.length with hlt | rfl | hgt
  · simp [List.getElem?_append_left hlt, Nat.ne_of_lt hlt]
  · simp [eq_comm, and_comm]
  · have hend : ∀ entry : SymbolEntry, (table.symbols ++ [entry])[i]? = none := by
      intro entry
      rw [List.getElem?_eq_none_iff, List.length_append]
      exact hgt
    simp [hend, Nat.ne_of_gt hgt, List.getElem?_eq_none (Nat.le_of_lt hgt)]

/-- The added symbol is bound in its home, where its name was not bound before. -/
theorem binds_addSymbol {table : SymbolTable} {id : NamespaceId} {name : String}
    {entry : NamespaceEntry} (hentry : table.namespace? id = some entry)
    (hfind : entry.symbols.find? name = none) (other : NamespaceId) (otherName : String)
    (symbol : SymbolId) :
    (table.addSymbol id name).Binds other otherName symbol ↔
      (other = id ∧ otherName = name ∧ symbol = ⟨table.symbols.length⟩) ∨
        table.Binds other otherName symbol := by
  have hlookup : (table.addSymbol id name).namespace? other = _ :=
    table.namespace?_modify id other _
  unfold Binds
  rw [hlookup]
  by_cases h : other = id
  · subst h
    by_cases hname : otherName = name
    · -- no earlier binding of the name is hidden
      subst hname
      simp [hentry, NamespaceEntry.bindSymbol, hfind, eq_comm]
    · simp [hentry, NamespaceEntry.bindSymbol, Dictionary.find?_insert_of_ne _ _ hname, hname]
  · simp [h]

theorem goesBy_addSymbol (table : SymbolTable) (id : NamespaceId) (name : String)
    (other : NamespaceId) (otherName : String) :
    (table.addSymbol id name).GoesBy other otherName ↔ table.GoesBy other otherName := by
  -- the list of symbols plays no part in what namespaces go by
  change (table.modify id (NamespaceEntry.bindSymbol name _)).GoesBy other otherName ↔ _
  exact goesBy_modify (NamespaceEntry.names_bindSymbol name _) other otherName

/-- A renamed namespace goes by the new names, and the others by the names that they had. -/
theorem goesBy_replaceNames {table : SymbolTable} {id : NamespaceId}
    (hid : table.hasNamespace id = true) (old : List String) (name : String)
    (nicknames : List String) (other : NamespaceId) (otherName : String) :
    (table.replaceNames id old name nicknames).GoesBy other otherName ↔
      if other = id then otherName ∈ name :: nicknames else table.GoesBy other otherName := by
  obtain ⟨entry, hentry⟩ := (table.hasNamespace_iff id).1 hid
  have hlookup : (table.replaceNames id old name nicknames).namespace? other = _ :=
    table.namespace?_modify id other _
  unfold GoesBy
  rw [hlookup]
  by_cases h : other = id
  · simp [h, hentry, NamespaceEntry.names, NamespaceEntry.withNames]
  · simp [h]

theorem binds_replaceNames (table : SymbolTable) (id : NamespaceId) (old : List String)
    (name : String) (nicknames : List String) (other : NamespaceId) (otherName : String)
    (symbol : SymbolId) :
    (table.replaceNames id old name nicknames).Binds other otherName symbol ↔
      table.Binds other otherName symbol := by
  -- the index plays no part in what names are bound to
  change (table.modify id (NamespaceEntry.withNames name nicknames)).Binds other otherName
    symbol ↔ _
  exact binds_modify (NamespaceEntry.symbols_withNames name nicknames) other otherName symbol

/-- The index after a renaming: the new names, without the old ones. -/
theorem find?_index_replaceNames (table : SymbolTable) (id : NamespaceId) (old : List String)
    (name : String) (nicknames : List String) (other : String) :
    (table.replaceNames id old name nicknames).index.find? other =
      if other ∈ name :: nicknames then some id
      else if other ∈ old then none
      else table.index.find? other := by
  rw [replaceNames, Dictionary.find?_foldl_insert, Dictionary.find?_foldl_erase]

/-! ## What the requests leave

One equation for each way in which a request is answered. A name that is refused is interned all
the same. -/

theorem create_of_taken {table : SymbolTable} {name : String} {owner : NamespaceId}
    (h : table.index.find? name = some owner) :
    table.create name = (.error (table.inUse name owner), table.noteNames [name]) := by
  -- interning the name leaves the index
  have hnoted : (table.noteNames [name]).index.find? name = some owner := h
  simp only [create, hnoted]
  rfl

theorem create_of_free {table : SymbolTable} {name : String}
    (h : table.index.find? name = none) :
    table.create name =
      (.ok ⟨table.namespaces.length⟩, (table.noteNames [name]).addNamespace name) := by
  have hnoted : (table.noteNames [name]).index.find? name = none := h
  simp only [create, hnoted]
  rfl

theorem intern_of_missing {table : SymbolTable} {id : NamespaceId} (name : String)
    (h : table.namespace? id = none) :
    table.intern id name = (none, table.noteNames [name]) := by
  have hnoted : (table.noteNames [name]).namespace? id = none := h
  simp only [intern, hnoted]

theorem intern_of_binds {table : SymbolTable} {id : NamespaceId} {name : String}
    {symbol : SymbolId} (h : table.Binds id name symbol) :
    table.intern id name = (some symbol, table.noteNames [name]) := by
  obtain ⟨entry, hentry, hfind⟩ := h
  have hnoted : (table.noteNames [name]).namespace? id = some entry := hentry
  simp only [intern, hnoted, hfind]

theorem intern_of_unbound {table : SymbolTable} {id : NamespaceId} {name : String}
    {entry : NamespaceEntry} (hentry : table.namespace? id = some entry)
    (hfind : entry.symbols.find? name = none) :
    table.intern id name =
      (some ⟨table.symbols.length⟩, (table.noteNames [name]).addSymbol id name) := by
  have hnoted : (table.noteNames [name]).namespace? id = some entry := hentry
  simp only [intern, hnoted, hfind]
  rfl

theorem internExternal_eq (table : SymbolTable) (id : NamespaceId) (name : String) :
    table.internExternal id name =
      match table.intern id name with
      | (none, table) => (none, table)
      | (some symbol, table) => (some symbol, table.expose id symbol) := rfl

/-- Names without conflict belong to the namespace itself or to none. -/
theorem conflict?_eq_none_iff (table : SymbolTable) (id : NamespaceId) (names : List String) :
    table.conflict? id names = none ↔
      ∀ name ∈ names, ∀ owner, table.index.find? name = some owner → owner = id := by
  rw [conflict?, List.findSome?_eq_none_iff]
  refine forall₂_congr fun name _ => ?_
  cases table.index.find? name with
  | none => simp
  | some owner => simp

/-- A conflict is about the first name that belongs to another namespace, and tells its owner. -/
theorem exists_of_conflict? {table : SymbolTable} {id owner : NamespaceId} {names : List String}
    {taken : String} (h : table.conflict? id names = some (taken, owner)) :
    ∃ before behind, names = before ++ taken :: behind ∧ table.conflict? id before = none ∧
      table.index.find? taken = some owner ∧ owner ≠ id := by
  obtain ⟨before, name, behind, hsplit, hname, hbefore⟩ := List.findSome?_eq_some_iff.1 h
  -- the name itself is in the index, with another owner
  have htaken : name = taken ∧ table.index.find? taken = some owner ∧ owner ≠ id := by
    split at hname
    next other hfind =>
      split at hname
      next => cases hname
      next hne =>
        obtain ⟨rfl, rfl⟩ := Prod.mk.inj (Option.some.inj hname)
        exact ⟨rfl, hfind, hne⟩
    next => cases hname
  obtain ⟨rfl, howner⟩ := htaken
  exact ⟨before, behind, hsplit, List.findSome?_eq_none_iff.2 hbefore, howner⟩

theorem rename_of_conflict {table : SymbolTable} {id owner : NamespaceId}
    {name taken : String} {nicknames : List String}
    (h : table.conflict? id (name :: nicknames) = some (taken, owner)) :
    table.rename id name nicknames =
      (some (.error (table.inUse taken owner)), table.noteNames (name :: nicknames)) := by
  have hnoted : (table.noteNames (name :: nicknames)).conflict? id (name :: nicknames) =
      some (taken, owner) := h
  simp only [rename, hnoted]
  rfl

theorem rename_of_missing {table : SymbolTable} {id : NamespaceId} {name : String}
    {nicknames : List String} (h : table.conflict? id (name :: nicknames) = none)
    (hmissing : table.namespace? id = none) :
    table.rename id name nicknames = (none, table.noteNames (name :: nicknames)) := by
  have hfree : (table.noteNames (name :: nicknames)).conflict? id (name :: nicknames) = none := h
  have hnoted : (table.noteNames (name :: nicknames)).namespace? id = none := hmissing
  simp only [rename, hfree, hnoted]

theorem rename_of_free {table : SymbolTable} {id : NamespaceId} {name : String}
    {nicknames : List String} {entry : NamespaceEntry}
    (h : table.conflict? id (name :: nicknames) = none)
    (hentry : table.namespace? id = some entry) :
    table.rename id name nicknames =
      (some (.ok ()),
        (table.noteNames (name :: nicknames)).replaceNames id entry.names name nicknames) := by
  have hfree : (table.noteNames (name :: nicknames)).conflict? id (name :: nicknames) = none := h
  have hnoted : (table.noteNames (name :: nicknames)).namespace? id = some entry := hentry
  simp only [rename, hfree, hnoted]
  rfl

end SymbolTable

end AliasReader
