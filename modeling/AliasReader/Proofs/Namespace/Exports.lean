import AliasReader.Proofs.Namespace.Interning
import AliasReader.Proofs.Namespace.Renaming

/-!
# External Symbols Under Requests

A namespace lists its external symbols by their handles. No handle is listed before its symbol is
made, so a new symbol is internal until it is exposed. Interning names therefore adds internal
symbols to one namespace and changes nothing else.

## Main definitions

* `SymbolTable.external?`: the external symbols of a namespace;
* `SymbolTable.GainsInternal`: a later table that has further internal symbols of one namespace
  and is otherwise the same.

## Main results

* `SymbolTable.Reachable.externalMade`: external symbols were made;
* `SymbolTable.gainsInternal_internAll`: what interning names adds.
-/

namespace AliasReader

namespace NamespaceEntry

theorem external_bindSymbol (name : String) (symbol : SymbolId) (entry : NamespaceEntry) :
    (entry.bindSymbol name symbol).external = entry.external := rfl

theorem external_withNames (name : String) (nicknames : List String) (entry : NamespaceEntry) :
    (entry.withNames name nicknames).external = entry.external := rfl

theorem mem_external_exposeSymbol (symbol other : SymbolId) (entry : NamespaceEntry) :
    other ∈ (entry.exposeSymbol symbol).external ↔ other = symbol ∨ other ∈ entry.external := by
  unfold exposeSymbol
  split
  next hmem =>
    -- the symbol is external already
    refine (or_iff_right_of_imp ?_).symm
    rintro rfl
    exact hmem
  next => exact List.mem_cons

end NamespaceEntry

namespace SymbolTable

variable {table : SymbolTable} {id other : NamespaceId} {name : String}

/-- The external symbols of a namespace. -/
def external? (table : SymbolTable) (id : NamespaceId) : Option (List SymbolId) :=
  (table.namespace? id).map NamespaceEntry.external

/-- The visibility of a symbol is told by the external symbols of its home. -/
theorem visibility?_eq (table : SymbolTable) (symbol : SymbolId) :
    table.visibility? symbol = (table.home? symbol).bind fun home =>
      (table.external? home).map fun external =>
        if symbol ∈ external then Visibility.external else Visibility.internal := by
  unfold visibility? external?
  cases table.home? symbol with
  | none => rfl
  | some home => cases hentry : table.namespace? home <;> simp [hentry, NamespaceEntry.visibility]

/-- A change that keeps the external symbols of a namespace keeps those of all. -/
theorem external?_modify {change : NamespaceEntry → NamespaceEntry}
    (hchange : ∀ entry, (change entry).external = entry.external) :
    (table.modify id change).external? other = table.external? other := by
  unfold external?
  rw [namespace?_modify]
  split
  · rw [Option.map_map]
    congr 1
    funext entry
    exact hchange entry
  · rfl

/-- Making a symbol leaves the external symbols of all namespaces. -/
theorem external?_intern (table : SymbolTable) (id other : NamespaceId) (name : String) :
    (table.intern id name).2.external? other = table.external? other := by
  rcases hentry : table.namespace? id with _ | entry
  · rw [intern_of_missing name hentry]
    rfl
  · rcases hfind : entry.symbols.find? name with _ | symbol
    · rw [intern_of_unbound hentry hfind]
      -- the list of symbols plays no part in what is external
      exact external?_modify (NamespaceEntry.external_bindSymbol name _)
    · rw [intern_of_binds ⟨entry, hentry, hfind⟩]
      rfl

/-! ## External symbols were made -/

/-- Every external symbol of a namespace is a symbol of the table. -/
def ExternalMade (table : SymbolTable) : Prop :=
  ∀ id external, table.external? id = some external →
    ∀ symbol ∈ external, symbol.index < table.symbols.length

/-- The symbol that is interned is one of the table. -/
theorem index_lt_of_intern (h : table.WellFormed) {symbol : SymbolId} {after : SymbolTable}
    (hintern : table.intern id name = (some symbol, after)) :
    symbol.index < after.symbols.length := by
  cases hentry : table.namespace? id with
  | none =>
    rw [intern_of_missing name hentry] at hintern
    cases hintern
  | some entry =>
    cases hfind : entry.symbols.find? name with
    | some bound =>
      -- a symbol that is bound was made
      have hbinds : table.Binds id name bound := ⟨entry, hentry, hfind⟩
      have howns := (table.owns_iff id name bound).1 ((h.binds_iff id name bound).1 hbinds)
      rw [intern_of_binds hbinds] at hintern
      cases hintern
      exact (List.getElem?_eq_some_iff.1 howns).1
    | none =>
      rw [intern_of_unbound hentry hfind] at hintern
      cases hintern
      simp [addSymbol, noteNames]

theorem ExternalMade.addNamespace (h : table.ExternalMade) (name : String) :
    (table.addNamespace name).ExternalMade := by
  intro id external hexternal symbol hsymbol
  rw [external?, namespace?_addNamespace] at hexternal
  split at hexternal
  · -- the new namespace has no external symbol
    cases hexternal
    cases hsymbol
  · exact h id external hexternal symbol hsymbol

theorem ExternalMade.intern (h : table.ExternalMade) (id : NamespaceId) (name : String) :
    (table.intern id name).2.ExternalMade := by
  cases hentry : table.namespace? id with
  | none =>
    rw [intern_of_missing name hentry]
    exact h
  | some entry =>
    cases hfind : entry.symbols.find? name with
    | some bound =>
      rw [intern_of_binds ⟨entry, hentry, hfind⟩]
      exact h
    | none =>
      rw [intern_of_unbound hentry hfind]
      intro other external hexternal symbol hsymbol
      have hbefore : table.external? other = some external :=
        (external?_modify (NamespaceEntry.external_bindSymbol name _)).symm.trans hexternal
      have hlt := h other external hbefore symbol hsymbol
      simp only [SymbolTable.addSymbol, SymbolTable.noteNames, List.length_append]
      omega

theorem ExternalMade.expose (h : table.ExternalMade) (id : NamespaceId) {symbol : SymbolId}
    (hsymbol : symbol.index < table.symbols.length) :
    (table.expose id symbol).ExternalMade := by
  intro other external hexternal exposed hexposed
  change exposed.index < table.symbols.length
  rw [external?, SymbolTable.expose, namespace?_modify] at hexternal
  split at hexternal
  · rw [Option.map_map] at hexternal
    obtain ⟨entry, hentry, rfl⟩ := Option.map_eq_some_iff.1 hexternal
    rcases (NamespaceEntry.mem_external_exposeSymbol _ _ _).1 hexposed with rfl | hbefore
    · exact hsymbol
    · exact h other entry.external (congrArg _ hentry) exposed hbefore
  · exact h other external hexternal exposed hexposed

theorem ExternalMade.rename (h : table.ExternalMade) (id : NamespaceId) (name : String)
    (nicknames : List String) : (table.rename id name nicknames).2.ExternalMade := by
  cases hconflict : table.conflict? id (name :: nicknames) with
  | some conflict =>
    rw [rename_of_conflict hconflict]
    exact h
  | none =>
    cases hentry : table.namespace? id with
    | none =>
      rw [rename_of_missing hconflict hentry]
      exact h
    | some entry =>
      rw [rename_of_free hconflict hentry]
      intro other external hexternal
      exact h other external
        ((external?_modify (NamespaceEntry.external_withNames name nicknames)).symm.trans hexternal)

/-- Requests expose only symbols that were made. -/
theorem Reachable.externalMade (h : table.Reachable) : table.ExternalMade := by
  -- by induction on the requests
  induction h with
  | empty =>
    intro id external hexternal
    simp [external?, namespace?, SymbolTable.empty] at hexternal
  | @perform table request hreachable ih =>
    cases request with
    | create name =>
      cases hfind : table.index.find? name with
      | some owner =>
        rw [SymbolTable.perform, create_of_taken hfind]
        exact ih
      | none =>
        have hnoted : (table.noteNames [name]).ExternalMade := ih
        rw [SymbolTable.perform, create_of_free hfind]
        exact hnoted.addNamespace name
    | intern id name => exact ih.intern id name
    | internExternal id name =>
      have hintern := ih.intern id name
      rw [SymbolTable.perform, internExternal_eq]
      split
      next heq =>
        rw [heq] at hintern
        exact hintern
      next symbol after heq =>
        rw [heq] at hintern
        exact hintern.expose id (index_lt_of_intern hreachable.wellFormed heq)
    | rename id name nicknames => exact ih.rename id name nicknames

/-! ## Further internal symbols -/

/-- A later table has further internal symbols of the namespace `id`. Everything else is as it
was: the namespaces, what they are called, their external symbols, and the symbols from before. -/
structure GainsInternal (id : NamespaceId) (before after : SymbolTable) : Prop where
  /-- There are as many namespaces. -/
  length : after.namespaces.length = before.namespaces.length
  /-- The namespaces are called what they were called. -/
  naming : ∀ ns, after.naming? ns = before.naming? ns
  /-- Designators mean what they meant. -/
  find? : ∀ designator, after.find? designator = before.find? designator
  /-- The external symbols are the same. -/
  external : ∀ ns, after.external? ns = before.external? ns
  /-- The other namespaces are the same. -/
  other : ∀ ns, ns ≠ id → after.namespace? ns = before.namespace? ns
  /-- The symbols from before have their names and homes. -/
  kept : ∀ (symbol : SymbolId) entry, before.symbols[symbol.index]? = some entry →
    after.symbols[symbol.index]? = some entry
  /-- The names are bound to the symbols from before as they were. -/
  bound : ∀ ns name symbol, before.home? symbol ≠ none →
    (after.Binds ns name symbol ↔ before.Binds ns name symbol)
  /-- A new symbol was made in the namespace `id` and is internal. -/
  made : ∀ symbol home, before.home? symbol = none → after.home? symbol = some home →
    home = id ∧ after.visibility? symbol = some .internal

theorem gainsInternal_noteNames (id : NamespaceId) (table : SymbolTable) (names : List String) :
    GainsInternal id table (table.noteNames names) := by
  refine ⟨rfl, fun _ => rfl, ?_, fun _ => rfl, fun _ _ => rfl, fun _ _ h => h,
    fun _ _ _ _ => Iff.rfl, ?_⟩
  · intro designator
    cases designator <;> rfl
  · intro symbol home hnone hsome
    have hhome : table.home? symbol = some home := hsome
    rw [hnone] at hhome
    cases hhome

section GainsInternal

variable {before after : SymbolTable} (h : GainsInternal id before after)

include h

theorem GainsInternal.home?_of_some {symbol : SymbolId} {home : NamespaceId}
    (hhome : before.home? symbol = some home) : after.home? symbol = some home := by
  obtain ⟨entry, hentry, rfl⟩ := Option.map_eq_some_iff.1 hhome
  rw [home?, h.kept symbol entry hentry]
  rfl

/-- The symbols from before have the visibility that they had. -/
theorem GainsInternal.visibility?_of_some {symbol : SymbolId} {home : NamespaceId}
    (hhome : before.home? symbol = some home) :
    after.visibility? symbol = before.visibility? symbol := by
  rw [visibility?_eq, visibility?_eq, hhome, h.home?_of_some hhome, Option.bind_some,
    Option.bind_some, h.external]

theorem GainsInternal.trans {later : SymbolTable} (h' : GainsInternal id after later) :
    GainsInternal id before later := by
  refine ⟨h'.length.trans h.length, fun ns => (h'.naming ns).trans (h.naming ns),
    fun designator => (h'.find? designator).trans (h.find? designator),
    fun ns => (h'.external ns).trans (h.external ns),
    fun ns hns => (h'.other ns hns).trans (h.other ns hns),
    fun symbol entry hentry => h'.kept symbol entry (h.kept symbol entry hentry), ?_, ?_⟩
  · intro ns name symbol hbefore
    obtain ⟨home, hhome⟩ := Option.ne_none_iff_exists'.1 hbefore
    have hafter : after.home? symbol ≠ none := by
      rw [h.home?_of_some hhome]
      exact Option.some_ne_none home
    exact (h'.bound ns name symbol hafter).trans (h.bound ns name symbol hbefore)
  · intro symbol home hnone hsome
    cases hmiddle : after.home? symbol with
    | none => exact h'.made symbol home hmiddle hsome
    | some middle =>
      -- a symbol that was made first stays internal
      have hsame := h'.home?_of_some hmiddle
      obtain rfl := Option.some.inj (hsome.symm.trans hsame)
      rw [h'.visibility?_of_some hmiddle]
      exact h.made symbol home hnone hmiddle

end GainsInternal

/-- Interning a name adds at most an internal symbol. -/
theorem gainsInternal_intern (h : table.Reachable) (id : NamespaceId) (name : String) :
    GainsInternal id table (table.intern id name).2 := by
  cases hentry : table.namespace? id with
  | none =>
    rw [intern_of_missing name hentry]
    exact gainsInternal_noteNames id table [name]
  | some entry =>
    cases hfind : entry.symbols.find? name with
    | some symbol =>
      rw [intern_of_binds ⟨entry, hentry, hfind⟩]
      exact gainsInternal_noteNames id table [name]
    | none =>
      rw [intern_of_unbound hentry hfind]
      have hexternal : ∀ ns, ((table.noteNames [name]).addSymbol id name).external? ns =
          table.external? ns := fun ns =>
        external?_modify (NamespaceEntry.external_bindSymbol name _)
      have hlength : ((table.noteNames [name]).addSymbol id name).namespaces.length =
          table.namespaces.length := List.length_modify _ _ _
      refine ⟨hlength, fun ns => naming?_modify (NamespaceEntry.names_bindSymbol name _), ?_,
        hexternal, ?_, ?_, ?_, ?_⟩
      · intro designator
        cases designator with
        | handle other => rw [SymbolTable.find?, SymbolTable.find?, hasNamespace, hlength]; rfl
        | named text => rfl
      · intro ns hns
        exact (namespace?_modify _ id ns _).trans (if_neg hns)
      · intro symbol found hfound
        have hlt := (List.getElem?_eq_some_iff.1 hfound).1
        exact (List.getElem?_append_left hlt).trans hfound
      · intro ns text symbol hbefore
        have hnoted : (table.noteNames [name]).namespace? id = some entry := hentry
        have hold : symbol ≠ ⟨table.symbols.length⟩ := by
          rintro rfl
          exact hbefore (by simp [home?])
        rw [binds_addSymbol hnoted hfind]
        refine or_iff_right ?_
        rintro ⟨-, -, hsymbol⟩
        exact hold hsymbol
      · intro symbol home hnone hsome
        -- the only new symbol has the next handle
        have hge : table.symbols.length ≤ symbol.index := by
          rwa [home?, Option.map_eq_none_iff, List.getElem?_eq_none_iff] at hnone
        have howns := hsome
        simp only [home?, addSymbol, noteNames, List.getElem?_append_right hge] at howns
        obtain ⟨made, hmade, rfl⟩ := Option.map_eq_some_iff.1 howns
        rw [List.getElem?_singleton, Option.ite_none_right_eq_some] at hmade
        obtain ⟨-, hmade⟩ := hmade
        cases hmade
        refine ⟨rfl, ?_⟩
        have hhome : table.external? id = some entry.external := by rw [external?, hentry]; rfl
        have hnotMem : symbol ∉ entry.external := fun hmem =>
          absurd (h.externalMade id _ hhome symbol hmem) (Nat.not_lt.2 hge)
        rw [visibility?_eq, hsome, Option.bind_some, hexternal, hhome, Option.map_some,
          if_neg hnotMem]

/-- Interning names adds internal symbols to one namespace and changes nothing else. -/
theorem gainsInternal_internAll (h : table.Reachable) (id : NamespaceId) (names : List String) :
    GainsInternal id table (table.internAll id names) := by
  induction names generalizing table with
  | nil => exact gainsInternal_noteNames id table []
  | cons name names ih =>
    exact (gainsInternal_intern h id name).trans (ih (h.perform (.intern id name)))

end SymbolTable

end AliasReader
