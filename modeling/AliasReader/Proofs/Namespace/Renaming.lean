import AliasReader.Proofs.Namespace.WellFormed

/-!
# Names Under Requests

What a namespace is called is its primary name together with the list of its nicknames. A
renaming replaces both for one namespace and leaves all others; a renaming that is refused, and
every other request, leaves what existing namespaces are called.

## Main definitions

* `SymbolTable.naming?`: the primary name and the nicknames of a namespace;
* `SymbolTable.Free`: a name that a namespace can be given.

## Main results

* `SymbolTable.naming?_rename_self` and `SymbolTable.naming?_rename_of_ne`: the names after a
  renaming;
* `SymbolTable.naming?_perform`: requests other than renamings leave the names.
-/

namespace AliasReader

namespace SymbolTable

variable {table : SymbolTable} {id other : NamespaceId} {name : String}
  {nicknames : List String}

/-- The primary name and the nicknames of a namespace. -/
def naming? (table : SymbolTable) (id : NamespaceId) : Option (String × List String) :=
  (table.namespace? id).map fun entry => (entry.name, entry.nicknames)

theorem name?_eq_naming? (table : SymbolTable) (id : NamespaceId) :
    table.name? id = (table.naming? id).map Prod.fst := by
  rw [naming?, Option.map_map]
  rfl

theorem nicknames?_eq_naming? (table : SymbolTable) (id : NamespaceId) :
    table.nicknames? id = (table.naming? id).map Prod.snd := by
  rw [naming?, Option.map_map]
  rfl

theorem name?_of_naming? {naming : String × List String} (h : table.naming? id = some naming) :
    table.name? id = some naming.1 := by
  rw [name?_eq_naming?, h, Option.map_some]

theorem nicknames?_of_naming? {naming : String × List String}
    (h : table.naming? id = some naming) : table.nicknames? id = some naming.2 := by
  rw [nicknames?_eq_naming?, h, Option.map_some]

/-- A name belongs to the namespace `id` or to none. -/
def Free (table : SymbolTable) (id : NamespaceId) (name : String) : Prop :=
  ∀ owner, table.find? (.named name) = some owner → owner = id

/-- A namespace goes by the names that it has. -/
theorem goesBy_iff_naming? :
    table.GoesBy id name ↔
      ∃ naming, table.naming? id = some naming ∧ name ∈ naming.1 :: naming.2 := by
  unfold GoesBy naming? NamespaceEntry.names
  cases table.namespace? id <;> simp

theorem hasNamespace_iff_naming? :
    table.hasNamespace id = true ↔ ∃ naming, table.naming? id = some naming := by
  rw [hasNamespace_iff]
  unfold naming?
  cases table.namespace? id <;> simp

theorem hasNamespace_of_length_le {after : SymbolTable}
    (h : table.namespaces.length ≤ after.namespaces.length)
    (hid : table.hasNamespace id = true) : after.hasNamespace id = true := by
  simp only [hasNamespace, decide_eq_true_eq] at *
  omega

/-- A name belongs to one namespace at most. -/
theorem WellFormed.goesBy_unique (h : table.WellFormed) (hid : table.GoesBy id name)
    (hother : table.GoesBy other name) : id = other := by
  have hfind := (h.index_iff name id).2 hid
  rw [(h.index_iff name other).2 hother] at hfind
  exact (Option.some.inj hfind).symm

/-- A name means the same in two tables when the same namespace goes by it. -/
theorem WellFormed.find?_congr {after : SymbolTable} (h : table.WellFormed)
    (hafter : after.WellFormed)
    (hname : ∀ owner, after.GoesBy owner name ↔ table.GoesBy owner name) :
    after.find? (.named name) = table.find? (.named name) := by
  apply Option.ext
  intro owner
  calc after.find? (.named name) = some owner
    _ ↔ after.GoesBy owner name := hafter.index_iff name owner
    _ ↔ table.GoesBy owner name := hname owner
    _ ↔ table.find? (.named name) = some owner := (h.index_iff name owner).symm

/-- A change that keeps the names of a namespace keeps what namespaces are called. -/
theorem naming?_modify {change : NamespaceEntry → NamespaceEntry}
    (hchange : ∀ entry, (change entry).names = entry.names) :
    (table.modify id change).naming? other = table.naming? other := by
  unfold naming?
  rw [namespace?_modify]
  split
  · -- equal lists of names have equal heads and equal tails
    rw [Option.map_map]
    congr 1
    funext entry
    obtain ⟨hname, hnicknames⟩ := List.cons.inj (hchange entry)
    exact Prod.ext hname hnicknames
  · rfl

/-! ## Renamings -/

/-- What a renaming leaves of the names, when it is granted and when it is not. -/
theorem naming?_replaceNames {old : List String} (hid : table.hasNamespace id = true) :
    (table.replaceNames id old name nicknames).naming? other =
      if other = id then some (name, nicknames) else table.naming? other := by
  obtain ⟨entry, hentry⟩ := (table.hasNamespace_iff id).1 hid
  have hlookup : (table.replaceNames id old name nicknames).namespace? other = _ :=
    table.namespace?_modify id other _
  unfold naming?
  rw [hlookup]
  by_cases h : other = id
  · simp [h, hentry, NamespaceEntry.withNames]
  · simp [h]

/-- A renaming leaves the other namespaces. -/
theorem naming?_rename_of_ne (h : other ≠ id) :
    (table.rename id name nicknames).2.naming? other = table.naming? other := by
  cases hconflict : table.conflict? id (name :: nicknames) with
  | some conflict =>
    rw [rename_of_conflict hconflict]
    rfl
  | none =>
    cases hentry : table.namespace? id with
    | none =>
      rw [rename_of_missing hconflict hentry]
      rfl
    | some entry =>
      have hid : (table.noteNames (name :: nicknames)).hasNamespace id = true :=
        (table.hasNamespace_iff id).2 ⟨entry, hentry⟩
      rw [rename_of_free hconflict hentry, naming?_replaceNames hid, if_neg h]
      rfl

/-- A renaming to free names is granted. -/
theorem naming?_rename_self (hid : table.hasNamespace id = true)
    (hfree : ∀ given ∈ name :: nicknames, table.Free id given) :
    table.rename id name nicknames = (some (.ok ()), (table.rename id name nicknames).2) ∧
      (table.rename id name nicknames).2.naming? id = some (name, nicknames) := by
  obtain ⟨entry, hentry⟩ := (table.hasNamespace_iff id).1 hid
  have hconflict : table.conflict? id (name :: nicknames) = none :=
    (table.conflict?_eq_none_iff id _).2 hfree
  have hnoted : (table.noteNames (name :: nicknames)).hasNamespace id = true := hid
  rw [rename_of_free hconflict hentry]
  exact ⟨rfl, by rw [naming?_replaceNames hnoted, if_pos rfl]⟩

/-- A renaming to a name that another namespace has is refused, and only notes the names. -/
theorem rename_of_not_free {given : String} (hgiven : given ∈ name :: nicknames)
    (htaken : ¬ table.Free id given) :
    ∃ failure, table.rename id name nicknames =
      (some (.error failure), table.noteNames (name :: nicknames)) := by
  cases hconflict : table.conflict? id (name :: nicknames) with
  | none => exact absurd ((table.conflict?_eq_none_iff id _).1 hconflict given hgiven) htaken
  | some conflict => exact ⟨_, rename_of_conflict hconflict⟩

theorem naming?_rename_of_not_free {given : String} (hgiven : given ∈ name :: nicknames)
    (htaken : ¬ table.Free id given) :
    (table.rename id name nicknames).2.naming? other = table.naming? other := by
  obtain ⟨failure, hrename⟩ := rename_of_not_free hgiven htaken
  rw [hrename]
  rfl

/-- A name after a renaming is one from before or a given one. -/
theorem GoesBy.of_rename {owner : NamespaceId} {text : String}
    (h : (table.rename id name nicknames).2.GoesBy owner text) :
    table.GoesBy owner text ∨ (owner = id ∧ text ∈ name :: nicknames) := by
  cases hconflict : table.conflict? id (name :: nicknames) with
  | some conflict =>
    rw [rename_of_conflict hconflict] at h
    exact Or.inl h
  | none =>
    cases hentry : table.namespace? id with
    | none =>
      rw [rename_of_missing hconflict hentry] at h
      exact Or.inl h
    | some entry =>
      have hid : (table.noteNames (name :: nicknames)).hasNamespace id = true :=
        (table.hasNamespace_iff id).2 ⟨entry, hentry⟩
      rw [rename_of_free hconflict hentry, goesBy_replaceNames hid] at h
      split at h
      next howner => exact Or.inr ⟨howner, h⟩
      next => exact Or.inl h

theorem length_rename :
    (table.rename id name nicknames).2.namespaces.length = table.namespaces.length := by
  unfold rename
  dsimp only
  split
  · rfl
  · split
    · rfl
    · exact List.length_modify _ _ _

/-! ## Requests that rename nothing -/

/-- Whether a request is a renaming. -/
def Request.renames : Request → Bool
  | .rename _ _ _ => true
  | _ => false

/-- Making a symbol leaves what namespaces are called. -/
theorem naming?_intern (text : String) :
    (table.intern id text).2.naming? other = table.naming? other := by
  cases hentry : table.namespace? id with
  | none =>
    rw [intern_of_missing text hentry]
    rfl
  | some entry =>
    cases hfind : entry.symbols.find? text with
    | some symbol =>
      rw [intern_of_binds ⟨entry, hentry, hfind⟩]
      rfl
    | none =>
      rw [intern_of_unbound hentry hfind]
      -- the list of symbols plays no part in what namespaces are called
      exact naming?_modify (NamespaceEntry.names_bindSymbol text _)

theorem naming?_internExternal (text : String) :
    (table.internExternal id text).2.naming? other = table.naming? other := by
  have hintern := @naming?_intern table id other text
  rw [internExternal_eq]
  split
  next heq =>
    rw [heq] at hintern
    exact hintern
  next symbol after heq =>
    rw [heq] at hintern
    exact (naming?_modify (NamespaceEntry.names_exposeSymbol symbol)).trans hintern

/-- Making a namespace leaves what the others are called. -/
theorem naming?_create (hid : table.hasNamespace id = true) (text : String) :
    (table.create text).2.naming? id = table.naming? id := by
  cases hfind : table.index.find? text with
  | some owner =>
    rw [create_of_taken hfind]
    rfl
  | none =>
    have hlookup := (table.noteNames [text]).namespace?_addNamespace text id
    rw [create_of_free hfind, naming?, hlookup]
    exact congrArg _ (if_neg (ne_next hid))

/-- Requests other than renamings leave what existing namespaces are called. -/
theorem naming?_perform {request : Request} (hrequest : request.renames = false)
    (hid : table.hasNamespace id = true) :
    (table.perform request).naming? id = table.naming? id := by
  cases request with
  | create text => exact naming?_create hid text
  | intern other text => exact naming?_intern text
  | internExternal other text => exact naming?_internExternal text
  | rename other text others => cases hrequest

/-! ## Namespaces stay -/

theorem length_intern (text : String) :
    (table.intern id text).2.namespaces.length = table.namespaces.length := by
  unfold intern
  dsimp only
  split
  · rfl
  · split
    · rfl
    · exact List.length_modify _ _ _

/-- No request takes a namespace away. -/
theorem length_le_perform (request : Request) :
    table.namespaces.length ≤ (table.perform request).namespaces.length := by
  -- only a creation changes the number of namespaces
  cases request with
  | create text =>
    cases hfind : table.index.find? text with
    | some owner =>
      rw [perform, create_of_taken hfind]
      exact Nat.le_refl _
    | none => simp [perform, create_of_free hfind, addNamespace, noteNames]
  | intern other text => exact Nat.le_of_eq (length_intern text).symm
  | internExternal other text =>
    have hintern := @length_intern table other text
    rw [perform, internExternal_eq]
    split
    next heq =>
      rw [heq] at hintern
      exact Nat.le_of_eq hintern.symm
    next symbol after heq =>
      rw [heq] at hintern
      rw [expose, modify, List.length_modify]
      exact Nat.le_of_eq hintern.symm
  | rename other text others => exact Nat.le_of_eq length_rename.symm

end SymbolTable

end AliasReader
