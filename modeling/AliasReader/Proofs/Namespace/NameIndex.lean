import AliasReader.Proofs.Namespace.Renaming

/-!
# The Index of Names

Names and nicknames of all namespaces share one index. Creations and renamings update it name by
name, and the names that they are given may repeat each other and the names that they replace. The
index stays exact all the same: a name leads to the namespace that goes by it now, and to no other.

## Main results

* `SymbolTable.goesBy_rename`: what namespaces go by after a renaming that is granted;
* `SymbolTable.index_exact`: a name means the namespace whose name or nickname it is.
-/

namespace AliasReader

namespace SymbolTable

variable {table : SymbolTable} {id : NamespaceId} {name : String} {nicknames : List String}

/-- A namespace goes by its primary name and by its nicknames. -/
theorem goesBy_iff (table : SymbolTable) (id : NamespaceId) (text : String) :
    table.GoesBy id text ↔
      table.name? id = some text ∨
        ∃ nicknames, table.nicknames? id = some nicknames ∧ text ∈ nicknames := by
  unfold GoesBy name? nicknames? NamespaceEntry.names
  rcases table.namespace? id with _ | entry
  · simp
  · simp [eq_comm]

/-- A renaming that is granted was given names without conflict, for an existing namespace. -/
theorem exists_entry_of_rename
    (h : (table.rename id name nicknames).1 = some (.ok ())) :
    table.conflict? id (name :: nicknames) = none ∧
      ∃ entry, table.namespace? id = some entry := by
  rcases hconflict : table.conflict? id (name :: nicknames) with _ | ⟨taken, owner⟩
  · refine ⟨rfl, ?_⟩
    rcases hentry : table.namespace? id with _ | entry
    · rw [rename_of_missing hconflict hentry] at h
      cases h
    · exact ⟨entry, rfl⟩
  · rw [rename_of_conflict hconflict] at h
    cases h

/-- After a renaming that is granted, the namespace goes by the given names only, and every other
one by the names that it had. -/
theorem goesBy_rename (h : (table.rename id name nicknames).1 = some (.ok ()))
    (owner : NamespaceId) (text : String) :
    (table.rename id name nicknames).2.GoesBy owner text ↔
      if owner = id then text ∈ name :: nicknames else table.GoesBy owner text := by
  obtain ⟨hfree, entry, hentry⟩ := exists_entry_of_rename h
  have hid : (table.noteNames (name :: nicknames)).hasNamespace id = true :=
    (table.hasNamespace_iff id).2 ⟨entry, hentry⟩
  rw [rename_of_free hfree hentry]
  exact goesBy_replaceNames hid entry.names name nicknames owner text

/-- The index of names is exact. A name means a namespace exactly when it is the primary name of
that namespace or one of its nicknames. So no two namespaces share a name, every namespace is found
under its primary name, and a name that a renaming gives up means nothing afterwards. -/
theorem index_exact (h : table.Reachable) :
    (∀ text id, table.find? (.named text) = some id ↔
      table.name? id = some text ∨
        ∃ nicknames, table.nicknames? id = some nicknames ∧ text ∈ nicknames) ∧
    (∀ text id other, table.GoesBy id text → table.GoesBy other text → id = other) ∧
    (∀ text id, table.name? id = some text → table.find? (.named text) = some id) ∧
    (∀ id name nicknames, (table.rename id name nicknames).1 = some (.ok ()) →
      ∀ old, table.GoesBy id old → old ∉ name :: nicknames →
        (table.rename id name nicknames).2.find? (.named old) = none) := by
  have hformed := h.wellFormed
  refine ⟨?_, ?_, ?_, ?_⟩
  · intro text id
    rw [← goesBy_iff]
    exact hformed.index_iff text id
  · intro text id other hid hother
    exact hformed.goesBy_unique hid hother
  · intro text id hname
    apply (hformed.index_iff text id).2
    exact (table.goesBy_iff id text).2 (Or.inl hname)
  · intro id name nicknames hgranted old hold hgiven
    have hafter := (h.perform (.rename id name nicknames)).wellFormed
    apply Option.eq_none_iff_forall_not_mem.2
    intro owner howner
    -- whoever goes by the old name now went by it before, and is the renamed namespace itself
    have hgoes := (goesBy_rename hgranted owner old).1 ((hafter.index_iff old owner).1 howner)
    split at hgoes
    next => exact hgiven hgoes
    next hne => exact hne (hformed.goesBy_unique hgoes hold)

/-- Two namespaces, of which the first is renamed twice, with names that repeat each other and a
name that it had before, while the second one is refused a name of the first. -/
theorem index_exact_renamed :
    let table := empty.performAll [.create "A", .create "B", .rename ⟨0⟩ "C" ["N", "C", "A", "N"],
      .rename ⟨1⟩ "B" ["N"], .rename ⟨0⟩ "A" ["C", "A"]]
    table.Reachable ∧ table.nicknames? ⟨0⟩ = some ["C", "A"] ∧ table.nicknames? ⟨1⟩ = some [] ∧
      table.find? (.named "N") = none ∧
      (table.find? (.named "C") = some ⟨0⟩ ↔ table.name? ⟨0⟩ = some "C" ∨
        ∃ nicknames, table.nicknames? ⟨0⟩ = some nicknames ∧ "C" ∈ nicknames) := by
  intro table
  have htable : table.Reachable := Reachable.empty.performAll _
  exact ⟨htable, by decide, by decide, by decide, (index_exact htable).1 "C" ⟨0⟩⟩

end SymbolTable

end AliasReader
