import AliasReader.Proofs.Reader.Simulation

/-!
# Sentinels Without Aliases

In a namespace without aliases a sentinel only delegates. A reader with the sentinel installed
then reads every text as a reader in whose table the trigger is bound as in the fallback table,
or as it was before the installation when there is no fallback table of its own.

## Main results

* `ReadTable.readsLike_installSentinel`: the two tables read alike;
* `Reader.agrees_installSentinel`: readings under the two tables agree.
-/

namespace AliasReader

namespace ReadTable

/-- The table with the trigger bound as in the fallback table, or as it is without one. -/
def fallBack (table : ReadTable) (trigger : Char) (fallback : Option ReadTable) : ReadTable :=
  match fallback with
  | some other => table.rebindFrom other trigger
  | none => table

theorem case_fallBack (table : ReadTable) (trigger : Char) (fallback : Option ReadTable) :
    (table.fallBack trigger fallback).case = table.case := by
  cases fallback with
  | none => rfl
  | some other => exact case_rebindFrom table other trigger

/-- The bindings after falling back. -/
theorem binding?_fallBack (table : ReadTable) (trigger : Char) (fallback : Option ReadTable)
    (c : Char) :
    (table.fallBack trigger fallback).binding? c =
      if c = trigger then (fallback.getD table).binding? c else table.binding? c := by
  cases fallback with
  | none => simp [fallBack]
  | some other =>
    have hrebind := table.binding?_rebindFrom other trigger c
    by_cases h : c = trigger
    · subst h
      simpa [fallBack] using hrebind
    · simpa [fallBack, h] using hrebind

/-- An ordinary table stays ordinary when it falls back on an ordinary one. -/
theorem Ordinary.fallBack {table : ReadTable} (htable : table.Ordinary)
    {fallback : Option ReadTable} (hfallback : ∀ other ∈ fallback, Ordinary other)
    (trigger : Char) : Ordinary (table.fallBack trigger fallback) := by
  intro c binding hbinding
  rw [binding?_fallBack] at hbinding
  split at hbinding
  · exact htable.getD hfallback c binding hbinding
  · exact htable c binding hbinding

/-- In a namespace without aliases, a table with a sentinel reads like the table that has fallen
back. -/
theorem readsLike_installSentinel {stores : Stores} {id : NamespaceId} {store : StoreId}
    (hunaliased : (stores store).hasAliases id = false) {table : ReadTable}
    (htable : table.Ordinary) {fallback : Option ReadTable}
    (hfallback : ∀ other ∈ fallback, Ordinary other) (trigger : Char) :
    ReadsLike stores stores id (table.installSentinel trigger fallback store)
      (table.fallBack trigger fallback) := by
  refine ⟨(case_fallBack table trigger fallback).symm, fun c => ?_⟩
  -- at the trigger the sentinel delegates, elsewhere the bindings are the same
  rw [installSentinel, DispatchTable.binding?_bind, binding?_fallBack]
  split
  next h =>
    subst h
    exact .unaliased hunaliased
      ((htable.getD hfallback).binding_readsLike_self (fun _ => rfl) c)
  next => exact htable.binding_readsLike_self (fun _ => rfl) c

end ReadTable

namespace Reader

/-- In a namespace without aliases a sentinel is invisible. Every form, every datum and every
text is read as without it: to the same data, or with the same failure at the same place, with the
same symbol table and the same characters left. -/
theorem agrees_installSentinel (reader : Reader) {stores : Stores} {store : StoreId}
    (hunaliased : (stores store).hasAliases reader.current = false) {table : ReadTable}
    (htable : table.Ordinary) {fallback : Option ReadTable}
    (hfallback : ∀ other ∈ fallback, ReadTable.Ordinary other) (trigger : Char) :
    let installed := { reader with table := table.installSentinel trigger fallback store }
    let fallen := { reader with table := table.fallBack trigger fallback }
    (installed.readForm stores).Agrees (fallen.readForm stores) ∧
      (installed.readNext stores).Agrees (fallen.readNext stores) ∧
      (installed.readAll stores).Agrees (fallen.readAll stores) :=
  @agrees_of_readsLike _ _ { reader with table := table.installSentinel trigger fallback store } _
    (ReadTable.readsLike_installSentinel hunaliased htable hfallback trigger)
    (htable.installSentinel hfallback trigger store) (htable.fallBack hfallback trigger)

/-- A sentinel over the opening parenthesis, with a fallback table that does not bind it. -/
theorem agrees_installSentinel_parenthesis :
    AliasRegistry.empty.hasAliases ⟨0⟩ = false ∧ ReadTable.standard.Ordinary ∧
      ReadTable.Ordinary .empty ∧
      (readAll (fun _ => .empty) ⟨.ofString "(a 'b) c",
        ReadTable.standard.installSentinel '(' (some .empty) ⟨0⟩,
        (SymbolTable.empty.create "USER").2, ⟨0⟩⟩).Agrees
        (readAll (fun _ => .empty) ⟨.ofString "(a 'b) c",
          ReadTable.standard.rebindFrom .empty '(', (SymbolTable.empty.create "USER").2, ⟨0⟩⟩) := by
  have hunaliased : AliasRegistry.empty.hasAliases ⟨0⟩ = false := by decide
  have hempty : ReadTable.Ordinary .empty := DispatchTable.allHandlers_empty _
  have htable : ReadTable.standard.Ordinary := ReadTable.ordinary_standard .upcase
  have hfallback : ∀ other ∈ some DispatchTable.empty, ReadTable.Ordinary other := by
    rintro _ ⟨⟩
    exact hempty
  obtain ⟨-, -, hall⟩ := @agrees_installSentinel
    ⟨.ofString "(a 'b) c", .empty, (SymbolTable.empty.create "USER").2, ⟨0⟩⟩ (fun _ => .empty) ⟨0⟩
    hunaliased _ htable _ hfallback '('
  exact ⟨hunaliased, htable, hempty, hall⟩

end Reader

end AliasReader
