import AliasReader.Proofs.Namespace.History

/-!
# Well-Formed Symbol Tables

A symbol table stores the same facts several times: a symbol knows its home and its name, and
its home binds the name to the symbol; a namespace knows its names, and the index knows the
namespace of each name. `SymbolTable.WellFormed` says that these copies agree. Every request
keeps it, so it holds of every reachable table.

## Main results

* `SymbolTable.WellFormed.perform`: a request keeps a table well-formed;
* `SymbolTable.Reachable.wellFormed`: reachable tables are well-formed;
* `SymbolTable.WellFormed.lookup?_eq_found_iff` and `SymbolTable.WellFormed.lookup?_eq_missing_iff`:
  looking up a name in a namespace, in terms of the symbols themselves.
-/

namespace AliasReader

namespace SymbolTable

/-- The parts of a table agree with each other. -/
structure WellFormed (table : SymbolTable) : Prop where
  /-- The index holds exactly the names that namespaces go by. -/
  index_iff : ∀ name id, table.index.find? name = some id ↔ table.GoesBy id name
  /-- A namespace binds a name to a symbol exactly when the symbol was made in it under that
  name. -/
  binds_iff : ∀ id name symbol, table.Binds id name symbol ↔ table.Owns id name symbol
  /-- The name of every symbol is interned. -/
  interned : ∀ entry ∈ table.symbols, entry.name ∈ table.texts.texts

/-! ## Lookups in a well-formed table -/

namespace WellFormed

variable {table : SymbolTable} (h : table.WellFormed)

include h

theorem hasNamespace_of_owns {id : NamespaceId} {name : String} {symbol : SymbolId}
    (howns : table.Owns id name symbol) : table.hasNamespace id = true := by
  obtain ⟨entry, hentry, -⟩ := (h.binds_iff id name symbol).2 howns
  exact (table.hasNamespace_iff id).2 ⟨entry, hentry⟩

/-- A namespace has at most one symbol of a name. -/
theorem owns_inj {id : NamespaceId} {name : String} {symbol symbol' : SymbolId}
    (howns : table.Owns id name symbol) (howns' : table.Owns id name symbol') :
    symbol = symbol' := by
  obtain ⟨entry, hentry, hfind⟩ := (h.binds_iff id name symbol).2 howns
  obtain ⟨entry', hentry', hfind'⟩ := (h.binds_iff id name symbol').2 howns'
  obtain rfl : entry = entry' := Option.some.inj (hentry.symm.trans hentry')
  exact Option.some.inj (hfind.symm.trans hfind')

/-- A designator stands for an existing namespace or for nothing. -/
theorem hasNamespace_of_find? {designator : Designator} {id : NamespaceId}
    (hfind : table.find? designator = some id) : table.hasNamespace id = true := by
  cases designator with
  | handle other =>
    simp only [find?, Option.ite_none_right_eq_some, Option.some.injEq] at hfind
    obtain ⟨hother, rfl⟩ := hfind
    exact hother
  | named name =>
    obtain ⟨entry, hentry, -⟩ := (h.index_iff name id).1 hfind
    exact (table.hasNamespace_iff id).2 ⟨entry, hentry⟩

/-- The name of a symbol has a handle, so that looking it up goes on to the namespace. -/
theorem lookup?_of_owns {id : NamespaceId} {name : String} {symbol : SymbolId}
    (howns : table.Owns id name symbol) :
    table.lookup? id name = (table.namespace? id).map (·.lookup name) := by
  have hmem : name ∈ table.texts.texts :=
    h.interned ⟨name, id⟩ (List.mem_of_getElem? ((table.owns_iff id name symbol).1 howns))
  unfold lookup?
  cases hget : table.texts.get? name with
  | some handle => rfl
  | none => exact absurd hmem ((table.texts.get?_eq_none_iff name).1 hget)

/-- A name stands for a symbol exactly when the symbol was made in the namespace under that
name; the visibility is that of the symbol. -/
theorem lookup?_eq_found_iff (id : NamespaceId) (name : String) (symbol : SymbolId)
    (visibility : Visibility) :
    table.lookup? id name = some (.found symbol visibility) ↔
      table.Owns id name symbol ∧ table.visibility? symbol = some visibility := by
  constructor
  · intro hlookup
    -- a name that was found was looked up in the namespace
    have hentry : ∃ entry, table.namespace? id = some entry ∧
        entry.lookup name = .found symbol visibility := by
      unfold lookup? at hlookup
      split at hlookup
      · cases hlookup
      · exact Option.map_eq_some_iff.1 hlookup
    obtain ⟨entry, hentry, hfound⟩ := hentry
    unfold NamespaceEntry.lookup at hfound
    split at hfound
    next other hfind =>
      obtain ⟨rfl, rfl⟩ := SymbolLookup.found.inj hfound
      have howns := (h.binds_iff id name other).1 ⟨entry, hentry, hfind⟩
      exact ⟨howns, by simp [visibility?, howns.1, hentry]⟩
    next => cases hfound
  · rintro ⟨howns, hvisibility⟩
    obtain ⟨entry, hentry, hfind⟩ := (h.binds_iff id name symbol).2 howns
    have hsees : entry.visibility symbol = visibility := by
      simpa [visibility?, howns.1, hentry] using hvisibility
    rw [h.lookup?_of_owns howns, hentry]
    simp [NamespaceEntry.lookup, hfind, hsees]

/-- A symbol has a visibility, and looking its name up finds it with that visibility. -/
theorem exists_visibility {id : NamespaceId} {name : String} {symbol : SymbolId}
    (howns : table.Owns id name symbol) :
    ∃ visibility, table.visibility? symbol = some visibility ∧
      table.lookup? id name = some (.found symbol visibility) := by
  obtain ⟨entry, hentry⟩ := (table.hasNamespace_iff id).1 (h.hasNamespace_of_owns howns)
  have hvisibility : table.visibility? symbol = some (entry.visibility symbol) := by
    simp [visibility?, howns.1, hentry]
  exact ⟨_, hvisibility, (h.lookup?_eq_found_iff _ _ _ _).2 ⟨howns, hvisibility⟩⟩

/-- In an existing namespace a name stands for nothing exactly when no symbol was made there
under that name. -/
theorem lookup?_eq_missing_iff {id : NamespaceId} (hid : table.hasNamespace id = true)
    (name : String) :
    table.lookup? id name = some .missing ↔ ∀ symbol, ¬ table.Owns id name symbol := by
  obtain ⟨entry, hentry⟩ := (table.hasNamespace_iff id).1 hid
  constructor
  · intro hlookup symbol howns
    obtain ⟨entry', hentry', hfind⟩ := (h.binds_iff id name symbol).2 howns
    rw [h.lookup?_of_owns howns, hentry'] at hlookup
    simp [NamespaceEntry.lookup, hfind] at hlookup
  · intro hnone
    have hfind : entry.symbols.find? name = none := by
      cases hfind : entry.symbols.find? name with
      | none => rfl
      | some symbol =>
        exact absurd ((h.binds_iff id name symbol).1 ⟨entry, hentry, hfind⟩) (hnone symbol)
    -- a name that was never interned is missing at once
    unfold lookup?
    split
    · rfl
    · simp [hentry, NamespaceEntry.lookup, hfind]

/-- A name stands for the same in two tables when the same symbol was made under it, with the same
visibility. -/
theorem lookup?_congr {after : SymbolTable} (hafter : after.WellFormed) {id : NamespaceId}
    (hid : table.hasNamespace id = true) (hid' : after.hasNamespace id = true) {name : String}
    (howns : ∀ symbol, after.Owns id name symbol ↔ table.Owns id name symbol)
    (hvisibility : ∀ symbol, table.Owns id name symbol →
      after.visibility? symbol = table.visibility? symbol) :
    after.lookup? id name = table.lookup? id name := by
  by_cases hsome : ∃ symbol, table.Owns id name symbol
  · obtain ⟨symbol, hsymbol⟩ := hsome
    obtain ⟨visibility, -, hfound⟩ := h.exists_visibility hsymbol
    rw [hfound]
    apply (hafter.lookup?_eq_found_iff _ _ _ _).2
    rw [howns, hvisibility symbol hsymbol]
    exact (h.lookup?_eq_found_iff _ _ _ _).1 hfound
  · have hnone : ∀ symbol, ¬ table.Owns id name symbol := fun symbol hsymbol =>
      hsome ⟨symbol, hsymbol⟩
    rw [(h.lookup?_eq_missing_iff hid name).2 hnone]
    apply (hafter.lookup?_eq_missing_iff hid' name).2
    intro symbol
    rw [howns]
    exact hnone symbol

end WellFormed

/-! ## Requests keep tables well-formed

A lemma for each addition and replacement, and from these one for each request. -/

theorem wellFormed_empty : WellFormed .empty where
  index_iff name id := by simp [empty, GoesBy, namespace?]
  binds_iff id name symbol := by simp [owns_iff, empty, Binds, namespace?]
  interned entry hentry := by simp [empty] at hentry

namespace WellFormed

variable {table : SymbolTable}

/-- Giving texts as names changes nothing but the interned texts. -/
theorem noteNames (h : table.WellFormed) (names : List String) :
    (table.noteNames names).WellFormed where
  index_iff := h.index_iff
  binds_iff := h.binds_iff
  interned entry hentry :=
    (table.texts.mem_texts_internAll names entry.name).2 (Or.inr (h.interned entry hentry))

theorem addNamespace (h : table.WellFormed) {name : String}
    (hfree : table.index.find? name = none) : (table.addNamespace name).WellFormed where
  index_iff other id := by
    rw [goesBy_addNamespace, ← h.index_iff]
    change (table.index.insert name _).find? other = some id ↔ _
    rw [Dictionary.find?_insert]
    by_cases hother : other = name
    · -- no namespace went by the free name
      simp [hother, hfree, eq_comm]
    · simp [hother]
  binds_iff id other symbol := by
    rw [binds_addNamespace]
    exact h.binds_iff id other symbol
  interned := h.interned

theorem addSymbol (h : table.WellFormed) {id : NamespaceId} {name : String}
    {entry : NamespaceEntry} (hentry : table.namespace? id = some entry)
    (hfind : entry.symbols.find? name = none) (hnoted : name ∈ table.texts.texts) :
    (table.addSymbol id name).WellFormed where
  index_iff other owner := by
    rw [goesBy_addSymbol]
    exact h.index_iff other owner
  binds_iff other otherName symbol := by
    rw [binds_addSymbol hentry hfind, owns_addSymbol, h.binds_iff]
  interned := by
    intro symbol hsymbol
    rcases List.mem_append.1 hsymbol with hold | hlast
    · exact h.interned symbol hold
    · rw [List.mem_singleton.1 hlast]
      exact hnoted

theorem expose (h : table.WellFormed) (id : NamespaceId) (symbol : SymbolId) :
    (table.expose id symbol).WellFormed where
  index_iff name other := by
    rw [SymbolTable.expose, goesBy_modify (NamespaceEntry.names_exposeSymbol symbol)]
    exact h.index_iff name other
  binds_iff other name bound := by
    rw [SymbolTable.expose, binds_modify (NamespaceEntry.symbols_exposeSymbol symbol)]
    exact h.binds_iff other name bound
  interned := h.interned

/-- Replacing the names of a namespace by names that no other namespace has keeps a table
well-formed. -/
theorem replaceNames (h : table.WellFormed) {id : NamespaceId} {entry : NamespaceEntry}
    (hentry : table.namespace? id = some entry) {name : String} {nicknames : List String}
    (hfree : table.conflict? id (name :: nicknames) = none) :
    (table.replaceNames id entry.names name nicknames).WellFormed where
  index_iff other owner := by
    have hid : table.hasNamespace id = true := (table.hasNamespace_iff id).2 ⟨entry, hentry⟩
    have hold : table.GoesBy id other ↔ other ∈ entry.names := by simp [GoesBy, hentry]
    rw [find?_index_replaceNames, goesBy_replaceNames hid]
    by_cases hnew : other ∈ name :: nicknames
    · -- a new name belonged to the namespace itself or to none
      have hnone : owner ≠ id → ¬ table.GoesBy owner other := fun hne hgoes =>
        hne ((table.conflict?_eq_none_iff id _).1 hfree other hnew owner
          ((h.index_iff other owner).2 hgoes))
      by_cases howner : owner = id
      · simp [hnew, howner]
      · simp [hnew, howner, Ne.symm howner, hnone howner]
    · by_cases hgiven : other ∈ entry.names
      · -- a name that is given up belonged to this namespace only
        have hfind : table.index.find? other = some id :=
          (h.index_iff other id).2 (hold.2 hgiven)
        by_cases howner : owner = id
        · simp [hnew, hgiven, howner]
        · simp [hnew, hgiven, howner, ← h.index_iff, hfind, Ne.symm howner]
      · by_cases howner : owner = id
        · simp [hnew, hgiven, howner, h.index_iff, hold]
        · simp [hnew, hgiven, howner, h.index_iff]
  binds_iff other otherName symbol := by
    rw [binds_replaceNames]
    exact h.binds_iff other otherName symbol
  interned := h.interned

theorem create (h : table.WellFormed) (name : String) : (table.create name).2.WellFormed := by
  cases hfind : table.index.find? name with
  | some owner =>
    rw [create_of_taken hfind]
    exact h.noteNames [name]
  | none =>
    rw [create_of_free hfind]
    exact (h.noteNames [name]).addNamespace hfind

theorem intern (h : table.WellFormed) (id : NamespaceId) (name : String) :
    (table.intern id name).2.WellFormed := by
  cases hentry : table.namespace? id with
  | none =>
    rw [intern_of_missing name hentry]
    exact h.noteNames [name]
  | some entry =>
    cases hfind : entry.symbols.find? name with
    | some symbol =>
      rw [intern_of_binds ⟨entry, hentry, hfind⟩]
      exact h.noteNames [name]
    | none =>
      rw [intern_of_unbound hentry hfind]
      refine (h.noteNames [name]).addSymbol hentry hfind ?_
      exact (table.texts.mem_texts_internAll [name] name).2 (Or.inl (List.mem_singleton_self name))

theorem internExternal (h : table.WellFormed) (id : NamespaceId) (name : String) :
    (table.internExternal id name).2.WellFormed := by
  have hintern := h.intern id name
  -- the symbol is made first, and exposed if there is one
  rw [internExternal_eq]
  split
  next heq =>
    rw [heq] at hintern
    exact hintern
  next symbol _ heq =>
    rw [heq] at hintern
    exact hintern.expose id symbol

theorem rename (h : table.WellFormed) (id : NamespaceId) (name : String)
    (nicknames : List String) : (table.rename id name nicknames).2.WellFormed := by
  have hnoted := h.noteNames (name :: nicknames)
  cases hconflict : table.conflict? id (name :: nicknames) with
  | some conflict =>
    rw [rename_of_conflict hconflict]
    exact hnoted
  | none =>
    cases hentry : table.namespace? id with
    | none =>
      rw [rename_of_missing hconflict hentry]
      exact hnoted
    | some entry =>
      rw [rename_of_free hconflict hentry]
      exact hnoted.replaceNames hentry hconflict

/-- Every request keeps a table well-formed. -/
theorem perform (h : table.WellFormed) (request : Request) :
    (table.perform request).WellFormed := by
  cases request with
  | create name => exact h.create name
  | intern id name => exact h.intern id name
  | internExternal id name => exact h.internExternal id name
  | rename id name nicknames => exact h.rename id name nicknames

end WellFormed

/-- Every table that requests lead to is well-formed. -/
theorem Reachable.wellFormed {table : SymbolTable} (h : table.Reachable) :
    table.WellFormed := by
  -- by induction on the requests
  induction h with
  | empty => exact wellFormed_empty
  | perform request _ ih => exact ih.perform request

end SymbolTable

end AliasReader
