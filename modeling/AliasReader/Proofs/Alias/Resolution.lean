import AliasReader.Alias.Registry

/-!
# Resolution of Aliases

An alias is resolved by looking it up in the table of its namespace, and the aliases that stand for
a namespace are found by going through all entries of that table. Both ways ask the symbol table
what a designator means, so they agree: an alias is listed for exactly the namespace that it stands
for.

## Main definitions

* `AliasRegistry.Holds`: an alias and its designator are stored for a namespace.

## Main results

* `Dictionary.Ascending.find?_eq_some_iff`: what is found in an ascending dictionary are its entries;
* `AliasRegistry.resolve_eq_ok_iff`: what an alias stands for, in terms of the stored aliases;
* `AliasRegistry.aliasesOf_exact`: reverse lookup is the inverse of resolution.
-/

namespace AliasReader

/-- In an ascending dictionary the value under a key is the one that is paired with it. -/
theorem Dictionary.Ascending.find?_eq_some_iff {ν : Type} {d : Dictionary String ν}
    (h : d.Ascending) (k : String) (v : ν) : d.find? k = some v ↔ (k, v) ∈ d.entries := by
  obtain ⟨entries⟩ := d
  simp only [Ascending, find?] at *
  induction entries with
  | nil => simp [lookup]
  | cons entry rest ih =>
    obtain ⟨key, value⟩ := entry
    obtain ⟨hhead, htail⟩ := List.pairwise_cons.1 h
    rw [lookup, List.mem_cons]
    split
    next hkey =>
      -- the key does not come again behind its entry
      subst hkey
      have hlater : (key, v) ∉ rest := fun hmem => String.lt_irrefl key (hhead _ hmem)
      simp [hlater, eq_comm]
    next hkey => rw [ih htail]; simp [Ne.symm hkey]

namespace AliasRegistry

variable {registry : AliasRegistry} {host : SymbolTable} {id target : NamespaceId} {key : String}
  {designator : Designator}

/-! ## Stored aliases -/

/-- An alias is stored for a namespace, with its designator. -/
def Holds (registry : AliasRegistry) (id : NamespaceId) (key : String) (designator : Designator) :
    Prop :=
  ∃ table, registry.table? id = some table ∧ (key, designator) ∈ table.entries

/-- Looking an alias up finds the designator that is stored with it. -/
theorem holds_iff :
    registry.Holds id key designator ↔
      (registry.table? id).bind (·.find? key) = some designator := by
  rw [Option.bind_eq_some_iff]
  apply exists_congr
  intro table
  apply and_congr_right
  intro _
  exact (table.ascending.find?_eq_some_iff key designator).symm

/-- A namespace has aliases when one is stored for it. -/
theorem hasAliases_iff :
    registry.hasAliases id = true ↔ ∃ key designator, registry.Holds id key designator := by
  unfold hasAliases Holds
  cases htable : registry.table? id with
  | none => simp
  | some table =>
    cases hentries : table.entries with
    | nil => simp [AliasTable.isEmpty, hentries]
    | cons entry rest =>
      have hfirst : ∃ key designator, (key, designator) = entry ∨ (key, designator) ∈ rest :=
        ⟨entry.1, entry.2, Or.inl rfl⟩
      simpa [AliasTable.isEmpty, hentries] using hfirst

/-! ## What aliases stand for -/

/-- An alias stands for the namespace that is meant by its designator. -/
theorem resolve_eq_ok_iff :
    registry.resolve host id key = .ok target ↔
      ∃ designator, (registry.table? id).bind (·.find? key) = some designator ∧
        host.find? designator = some target := by
  unfold resolve
  split
  next hnone => simp [hnone]
  next designator hsome => cases hfind : host.find? designator <;> simp [hsome, hfind]

/-- An alias whose designator means no namespace is unknown by its designator. -/
theorem exists_resolve_eq_error_iff :
    (∃ text, registry.resolve host id key = .error (.unknownAlias key (some text))) ↔
      ∃ designator, (registry.table? id).bind (·.find? key) = some designator ∧
        host.find? designator = none := by
  unfold resolve
  split
  next hnone => simp [hnone]
  next designator hsome => cases hfind : host.find? designator <;> simp [hsome, hfind]

/-- The aliases that are listed for a namespace are the stored ones whose designators mean it. -/
theorem mem_aliasesOf_iff :
    key ∈ registry.aliasesOf host target id ↔
      ∃ designator, registry.Holds id key designator ∧ host.find? designator = some target := by
  unfold aliasesOf Holds
  cases htable : registry.table? id with
  | none => simp
  | some table => simp

/-- The aliases that are listed for a namespace ascend strictly. -/
theorem pairwise_aliasesOf (registry : AliasRegistry) (host : SymbolTable)
    (target id : NamespaceId) : (registry.aliasesOf host target id).Pairwise (· < ·) := by
  unfold aliasesOf
  cases htable : registry.table? id with
  | none => exact List.Pairwise.nil
  | some table =>
    apply List.pairwise_map.2
    exact table.ascending.filter _

/-- An alias is listed for a namespace exactly when it resolves to it. -/
theorem mem_aliasesOf_iff_resolve :
    key ∈ registry.aliasesOf host target id ↔ registry.resolve host id key = .ok target := by
  simp only [mem_aliasesOf_iff, resolve_eq_ok_iff, holds_iff]

/-- Reverse lookup is the inverse of resolution, whatever designators the aliases have and whatever
the symbol table is. An alias is listed for a namespace, in order and once, exactly when it resolves
to it. So no alias is listed for two namespaces, every alias of the table is listed for one unless
it resolves to nothing, and where there is no table nothing is listed. -/
theorem aliasesOf_exact (registry : AliasRegistry) (host : SymbolTable) (id : NamespaceId) :
    (∀ target key, key ∈ registry.aliasesOf host target id ↔
      registry.resolve host id key = .ok target) ∧
    (∀ target, (registry.aliasesOf host target id).Pairwise (· < ·)) ∧
    (∀ first second, first ≠ second →
      ∀ key ∈ registry.aliasesOf host first id, key ∉ registry.aliasesOf host second id) ∧
    (∀ key, (∃ designator, registry.Holds id key designator) ↔
      (∃ target, key ∈ registry.aliasesOf host target id) ∨
        ∃ text, registry.resolve host id key = .error (.unknownAlias key (some text))) ∧
    (registry.table? id = none → ∀ target, registry.aliasesOf host target id = []) := by
  refine ⟨fun target key => mem_aliasesOf_iff_resolve,
    fun target => registry.pairwise_aliasesOf host target id, ?_, ?_, ?_⟩
  · intro first second hne key hfirst hsecond
    -- the alias would resolve to both namespaces
    have hresolve := mem_aliasesOf_iff_resolve.1 hfirst
    rw [mem_aliasesOf_iff_resolve.1 hsecond] at hresolve
    exact hne (Except.ok.inj hresolve).symm
  · intro key
    simp only [exists_resolve_eq_error_iff, mem_aliasesOf_iff, ← holds_iff]
    constructor
    · rintro ⟨designator, hholds⟩
      -- the designator means a namespace, or it means nothing
      cases hfind : host.find? designator with
      | none => exact Or.inr ⟨designator, hholds, hfind⟩
      | some target => exact Or.inl ⟨target, designator, hholds, hfind⟩
    · rintro (⟨_, designator, hholds, -⟩ | ⟨designator, hholds, -⟩)
      · exact ⟨designator, hholds⟩
      · exact ⟨designator, hholds⟩
  · intro htable target
    rw [aliasesOf, htable]

/-- A library that is designated by its handle, its name and its nickname, next to a name and a
handle that mean nothing. -/
theorem aliasesOf_exact_mixed :
    let host := ((((SymbolTable.empty.create "USER").2).create "LIB").2.rename ⟨1⟩ "LIB" ["KIT"]).2
    let registry := AliasRegistry.empty.set ⟨0⟩ [(.handle ⟨1⟩, "H"), (.named "LIB", "N"),
      (.named "KIT", "K"), (.named "LATER", "L"), (.handle ⟨7⟩, "M"), (.handle ⟨0⟩, "SELF")]
    registry.aliasesOf host ⟨1⟩ ⟨0⟩ = ["H", "K", "N"] ∧
      (∀ key ∈ registry.aliasesOf host ⟨1⟩ ⟨0⟩, key ∉ registry.aliasesOf host ⟨0⟩ ⟨0⟩) ∧
      registry.table? ⟨1⟩ = none ∧ registry.aliasesOf host ⟨0⟩ ⟨1⟩ = [] := by
  intro host registry
  obtain ⟨-, -, hdisjoint, -, -⟩ := registry.aliasesOf_exact host ⟨0⟩
  obtain ⟨-, -, -, -, hnone⟩ := registry.aliasesOf_exact host ⟨1⟩
  have htable : registry.table? ⟨1⟩ = none := by decide
  exact ⟨by decide, hdisjoint ⟨1⟩ ⟨0⟩ (by decide), htable, hnone htable ⟨0⟩⟩

end AliasRegistry

end AliasReader
