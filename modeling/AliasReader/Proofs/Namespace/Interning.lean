import AliasReader.Datum
import AliasReader.Proofs.Namespace.History

/-!
# Interning Names in Order

A reader makes the symbols of a namespace one after the other, in the order in which their names
stand in the source. A symbol that was made stays bound to its name, so the data that were read can
be told from the names and the last symbol table alone.

## Main definitions

* `SymbolTable.bound?`: the symbol that a name is bound to in a namespace;
* `SymbolTable.internAll`: the table after names were interned in order;
* `SymbolTable.Interns`: data are given texts with their names interned in order.

## Main results

* `SymbolTable.intern_spec`: what interning a name in an existing namespace does;
* `SymbolTable.Interns.append`: interning goes through concatenation.
-/

namespace AliasReader

namespace Datum

variable {σ τ : Type}

mutual

/-- A replacement that knows more symbols replaces the same ones in the same way. -/
theorem traverse?_mono {f g : σ → Option τ} (hfg : ∀ s t, f s = some t → g s = some t) :
    ∀ (datum : Datum σ) (result : Datum τ),
      datum.traverse? f = some result → datum.traverse? g = some result
  | .symbol s, result, h => by
    obtain ⟨t, ht, rfl⟩ := Option.map_eq_some_iff.1 h
    simp [traverse?, hfg s t ht]
  | .text content, result, h => h
  | .list items, result, h => by
    obtain ⟨results, hitems, rfl⟩ := Option.map_eq_some_iff.1 h
    simp [traverse?, traverseItems?_mono hfg items results hitems]
  | .quote quoted, result, h => by
    obtain ⟨inner, hquoted, rfl⟩ := Option.map_eq_some_iff.1 h
    simp [traverse?, traverse?_mono hfg quoted inner hquoted]

theorem traverseItems?_mono {f g : σ → Option τ} (hfg : ∀ s t, f s = some t → g s = some t) :
    ∀ (items : List (Datum σ)) (results : List (Datum τ)),
      traverseItems? f items = some results → traverseItems? g items = some results
  | [], results, h => h
  | item :: rest, results, h => by
    rw [traverseItems?] at h
    split at h
    next first others hfirst hothers =>
      rw [traverseItems?, traverse?_mono hfg item first hfirst,
        traverseItems?_mono hfg rest others hothers]
      exact h
    next => cases h

end

mutual

/-- A replacement that knows all symbols of a datum replaces them. -/
theorem exists_traverse? {f : σ → Option τ} :
    ∀ datum : Datum σ, (∀ s ∈ datum.symbols, ∃ t, f s = some t) →
      ∃ result, datum.traverse? f = some result
  | .symbol s, h => by
    obtain ⟨t, ht⟩ := h s (List.mem_singleton_self s)
    exact ⟨.symbol t, by rw [traverse?, ht]; rfl⟩
  | .text content, _ => ⟨.text content, rfl⟩
  | .list items, h => by
    obtain ⟨results, hresults⟩ := exists_traverseItems? items h
    exact ⟨.list results, by rw [traverse?, hresults]; rfl⟩
  | .quote quoted, h => by
    obtain ⟨result, hresult⟩ := exists_traverse? quoted h
    exact ⟨.quote result, by rw [traverse?, hresult]; rfl⟩

theorem exists_traverseItems? {f : σ → Option τ} :
    ∀ items : List (Datum σ), (∀ s ∈ symbolsOfItems items, ∃ t, f s = some t) →
      ∃ results, traverseItems? f items = some results
  | [], _ => ⟨[], rfl⟩
  | item :: rest, h => by
    obtain ⟨first, hfirst⟩ :=
      exists_traverse? item fun s hs => h s (List.mem_append_left _ hs)
    obtain ⟨others, hothers⟩ :=
      exists_traverseItems? rest fun s hs => h s (List.mem_append_right _ hs)
    exact ⟨first :: others, by rw [traverseItems?, hfirst, hothers]⟩

end

theorem symbolsOfItems_append (items others : List (Datum σ)) :
    symbolsOfItems (items ++ others) = symbolsOfItems items ++ symbolsOfItems others := by
  induction items with
  | nil => rfl
  | cons item rest ih => simp [symbolsOfItems, ih, List.append_assoc]

/-- Replacing the symbols of two lists replaces those of both. -/
theorem traverseItems?_append {f : σ → Option τ} {items others : List (Datum σ)}
    {results results' : List (Datum τ)} (h : traverseItems? f items = some results)
    (h' : traverseItems? f others = some results') :
    traverseItems? f (items ++ others) = some (results ++ results') := by
  induction items generalizing results with
  | nil =>
    obtain rfl : [] = results := Option.some.inj h
    exact h'
  | cons item rest ih =>
    rw [traverseItems?] at h
    split at h
    next first found hfirst hfound =>
      obtain rfl := Option.some.inj h
      rw [List.cons_append, traverseItems?, hfirst, ih hfound]
      rfl
    next => cases h

theorem eq_nil_of_traverseItems? {f : σ → Option τ} {items : List (Datum σ)}
    (h : traverseItems? f items = some []) : items = [] := by
  cases items with
  | nil => rfl
  | cons item rest =>
    rw [traverseItems?] at h
    split at h <;> cases h

/-- What one datum comes from is one datum. -/
theorem eq_singleton_of_traverseItems? {f : σ → Option τ} {items : List (Datum σ)}
    {result : Datum τ} (h : traverseItems? f items = some [result]) :
    ∃ item, items = [item] ∧ item.traverse? f = some result := by
  cases items with
  | nil => cases h
  | cons item rest =>
    rw [traverseItems?] at h
    split at h
    next first others hfirst hothers =>
      obtain ⟨rfl, rfl⟩ := List.cons.inj (Option.some.inj h)
      rw [eq_nil_of_traverseItems? hothers]
      exact ⟨item, rfl, hfirst⟩
    next => cases h

end Datum

namespace SymbolTable

/-- The symbol that a name is bound to in a namespace. -/
def bound? (table : SymbolTable) (id : NamespaceId) (name : String) : Option SymbolId :=
  (table.namespace? id).bind (·.symbols.find? name)

theorem bound?_eq_some_iff (table : SymbolTable) (id : NamespaceId) (name : String)
    (symbol : SymbolId) : table.bound? id name = some symbol ↔ table.Binds id name symbol :=
  Option.bind_eq_some_iff

/-- A later table has every namespace and every binding of an earlier one. -/
structure Extends (table after : SymbolTable) : Prop where
  /-- The namespaces stay. -/
  hasNamespace : ∀ id, table.hasNamespace id = true → after.hasNamespace id = true
  /-- The bindings stay. -/
  binds : ∀ id name symbol, table.Binds id name symbol → after.Binds id name symbol

theorem Extends.trans {first second third : SymbolTable} (h : first.Extends second)
    (h' : second.Extends third) : first.Extends third :=
  ⟨fun id hid => h'.hasNamespace id (h.hasNamespace id hid),
    fun id name symbol hbinds => h'.binds id name symbol (h.binds id name symbol hbinds)⟩

/-- Interning a name in an existing namespace gives the symbol that the name is bound to from then
on, and leaves all that was there. -/
theorem intern_spec {table : SymbolTable} {id : NamespaceId}
    (hid : table.hasNamespace id = true) (name : String) :
    ∃ symbol, (table.intern id name).1 = some symbol ∧
      (table.intern id name).2.Binds id name symbol ∧
      table.Extends (table.intern id name).2 := by
  obtain ⟨entry, hentry⟩ := (table.hasNamespace_iff id).1 hid
  -- the name is bound already, or a new symbol is bound to it
  cases hfind : entry.symbols.find? name with
  | some symbol =>
    have hbinds : table.Binds id name symbol := ⟨entry, hentry, hfind⟩
    rw [intern_of_binds hbinds]
    exact ⟨symbol, rfl, hbinds, fun _ h => h, fun _ _ _ h => h⟩
  | none =>
    have hnoted : (table.noteNames [name]).namespace? id = some entry := hentry
    rw [intern_of_unbound hentry hfind]
    refine ⟨_, rfl, (binds_addSymbol hnoted hfind _ _ _).2 (Or.inl ⟨rfl, rfl, rfl⟩), ?_, ?_⟩
    · -- a namespace is changed in place
      intro other hother
      have hlength : ((table.noteNames [name]).addSymbol id name).namespaces.length =
          table.namespaces.length := List.length_modify _ _ _
      rw [hasNamespace, hlength]
      exact hother
    · intro other otherName symbol hbinds
      exact (binds_addSymbol hnoted hfind other otherName symbol).2 (Or.inr hbinds)

/-- The table after names were interned in a namespace, in order. -/
def internAll (table : SymbolTable) (id : NamespaceId) (names : List String) : SymbolTable :=
  table.performAll (names.map (.intern id))

theorem internAll_append (table : SymbolTable) (id : NamespaceId) (names others : List String) :
    table.internAll id (names ++ others) = (table.internAll id names).internAll id others := by
  simp [internAll, performAll, List.foldl_append]

/-- Interning names leaves all that was there. -/
theorem extends_internAll {table : SymbolTable} {id : NamespaceId}
    (hid : table.hasNamespace id = true) (names : List String) :
    table.Extends (table.internAll id names) := by
  induction names generalizing table with
  | nil => exact ⟨fun _ h => h, fun _ _ _ h => h⟩
  | cons name names ih =>
    -- the namespace is still there when the next name is interned
    obtain ⟨_, -, -, hextends⟩ := intern_spec hid name
    exact hextends.trans (ih (hextends.hasNamespace id hid))

/-- From one table to a later one, the tokens of some data were interned in order, folded by `fold`;
in the later table they are bound to the symbols of the resulting data. -/
structure Interns (fold : String → String) (id : NamespaceId) (table after : SymbolTable)
    (written : List (Datum String)) (data : List (Datum SymbolId)) : Prop where
  /-- The folded tokens were interned in order. -/
  table : after = table.internAll id ((Datum.symbolsOfItems written).map fold)
  /-- The data have the symbols of the folded tokens. -/
  data : Datum.traverseItems? (fun token => after.bound? id (fold token)) written = some data

variable {fold : String → String} {id : NamespaceId}

theorem Interns.nil (table : SymbolTable) : Interns fold id table table [] [] := ⟨rfl, rfl⟩

/-- Data that are interned after others are interned with them. -/
theorem Interns.append {first second third : SymbolTable} {written others : List (Datum String)}
    {data data' : List (Datum SymbolId)} (hid : first.hasNamespace id = true)
    (h : Interns fold id first second written data)
    (h' : Interns fold id second third others data') :
    Interns fold id first third (written ++ others) (data ++ data') := by
  have hsecond : second.hasNamespace id = true := by
    rw [h.table]
    exact (extends_internAll hid _).hasNamespace id hid
  have hextends : second.Extends third := by
    rw [h'.table]
    exact extends_internAll hsecond _
  refine ⟨?_, Datum.traverseItems?_append ?_ h'.data⟩
  · -- the tokens of both are interned one after the other
    rw [Datum.symbolsOfItems_append, List.map_append, internAll_append, ← h.table, ← h'.table]
  · -- what the first tokens were bound to stays
    refine Datum.traverseItems?_mono ?_ written data h.data
    intro token symbol hbound
    rw [bound?_eq_some_iff] at hbound ⊢
    exact hextends.binds id (fold token) symbol hbound

/-- A token that is interned is a symbol. -/
theorem Interns.symbol {table after : SymbolTable} {token : String} {symbol : SymbolId}
    (hid : table.hasNamespace id = true)
    (h : table.intern id (fold token) = (some symbol, after)) :
    Interns fold id table after [.symbol token] [.symbol symbol] := by
  -- the symbol that was made is the one that the token is bound to afterwards
  obtain ⟨found, hfound, hbinds, -⟩ := intern_spec hid (fold token)
  rw [h] at hfound hbinds
  obtain rfl := Option.some.inj hfound
  refine ⟨?_, ?_⟩
  · have hperform : table.internAll id [fold token] = (table.intern id (fold token)).2 := rfl
    rw [Datum.symbolsOfItems, Datum.symbols, Datum.symbolsOfItems, List.append_nil, List.map_cons,
      List.map_nil, hperform, h]
  · have hbound : after.bound? id (fold token) = some symbol :=
      (bound?_eq_some_iff _ _ _ _).2 hbinds
    simp [Datum.traverseItems?, Datum.traverse?, hbound]

/-- Interning the items of a list interns the list. -/
theorem Interns.list {table after : SymbolTable} {written : List (Datum String)}
    {data : List (Datum SymbolId)} (h : Interns fold id table after written data) :
    Interns fold id table after [.list written] [.list data] := by
  refine ⟨?_, ?_⟩
  · rw [Datum.symbolsOfItems, Datum.symbols, Datum.symbolsOfItems, List.append_nil]
    exact h.table
  · simp [Datum.traverseItems?, Datum.traverse?, h.data]

/-- Interning a datum interns it quoted. -/
theorem Interns.quote {table after : SymbolTable} {written : List (Datum String)}
    {datum : Datum SymbolId} (h : Interns fold id table after written [datum]) :
    ∃ quoted, written = [quoted] ∧
      Interns fold id table after [.quote quoted] [.quote datum] := by
  obtain ⟨quoted, rfl, hquoted⟩ := Datum.eq_singleton_of_traverseItems? h.data
  refine ⟨quoted, rfl, ?_, ?_⟩
  · rw [Datum.symbolsOfItems, Datum.symbols, Datum.symbolsOfItems, List.append_nil]
    have hsymbols := h.table
    rwa [Datum.symbolsOfItems, Datum.symbolsOfItems, List.append_nil] at hsymbols
  · simp [Datum.traverseItems?, Datum.traverse?, hquoted]

end SymbolTable

end AliasReader
