import AliasReader.Proofs.Namespace.NameIndex
import AliasReader.Proofs.Namespace.SymbolHistory
import AliasReader.Proofs.Namespace.Handles

/-!
# Renaming Whole or Not at All

A renaming gives up all names of a namespace and takes new ones, in an index that all namespaces
share; the new names may repeat each other and the ones that are given up. It is granted as a whole
when no given name belongs to another namespace, and it can be undone then. It is refused as a whole
otherwise, because of the first such name.

## Main definitions

* `SymbolTable.Alike`: whatever can be asked about existing namespaces has the same answer;
* `SymbolTable.Renamed`: a namespace has the given names in place of its former ones;
* `SymbolTable.FirstTaken`: the first of some names that belongs to another namespace.

## Main results

* `SymbolTable.rename_eq_ok_iff`: which renamings are granted;
* `SymbolTable.allOrNothing_rename`: renamings that are granted, undone and refused.
-/

namespace AliasReader

namespace SymbolTable

variable {table after : SymbolTable} {id : NamespaceId} {name : String} {nicknames : List String}

/-! ## What a renaming may change -/

/-- Two tables agree on symbols: the symbols themselves, their visibility, and what names stand for
in the namespaces of the first table. -/
structure SameSymbols (table after : SymbolTable) : Prop where
  /-- Names stand for the same. -/
  lookup : ∀ id, table.hasNamespace id = true → ∀ text,
    after.lookup? id text = table.lookup? id text
  /-- The symbols are the same, with their names and their homes. -/
  symbols : after.symbols = table.symbols
  /-- Symbols have the same visibility. -/
  visibility : ∀ symbol, after.visibility? symbol = table.visibility? symbol

/-- Two tables agree on everything that can be asked about namespaces and symbols. -/
structure Alike (table after : SymbolTable) : Prop extends SameSymbols table after where
  /-- Namespaces have the same primary name. -/
  primary : ∀ id, after.name? id = table.name? id
  /-- Namespaces have the same nicknames, in the same order. -/
  further : ∀ id, after.nicknames? id = table.nicknames? id
  /-- Designators mean the same. -/
  find : ∀ designator, after.find? designator = table.find? designator

/-- A namespace has been given a primary name and nicknames in place of its former ones. -/
structure Renamed (table : SymbolTable) (id : NamespaceId) (name : String) (nicknames : List String)
    (after : SymbolTable) : Prop extends SameSymbols table after where
  /-- The primary name is the given one. -/
  primary : after.name? id = some name
  /-- The nicknames are the given ones, in order and with repetitions. -/
  further : after.nicknames? id = some nicknames
  /-- The given names mean the namespace. -/
  given : ∀ text ∈ name :: nicknames, after.find? (.named text) = some id
  /-- Former names that are not given again mean nothing. -/
  former : ∀ text, table.GoesBy id text → text ∉ name :: nicknames →
    after.find? (.named text) = none
  /-- Names that are neither former nor given ones mean what they did. -/
  kept : ∀ text, ¬ table.GoesBy id text → text ∉ name :: nicknames →
    after.find? (.named text) = table.find? (.named text)
  /-- Handles mean what they did. -/
  handle : ∀ other, after.find? (.handle other) = table.find? (.handle other)
  /-- The other namespaces have their primary names and their nicknames still. -/
  others : ∀ other, other ≠ id →
    after.name? other = table.name? other ∧ after.nicknames? other = table.nicknames? other

/-- A renaming leaves the symbols, whatever becomes of it. -/
theorem sameSymbols_rename (h : table.WellFormed) (id : NamespaceId) (name : String)
    (nicknames : List String) : SameSymbols table (table.rename id name nicknames).2 where
  lookup _ hother _ := lookup?_rename h hother id name nicknames
  symbols := table.symbols_rename id name nicknames
  visibility := table.visibility?_rename id name nicknames

theorem SameSymbols.trans {later : SymbolTable} (h : SameSymbols table after)
    (h' : SameSymbols after later) (hlength : table.namespaces.length ≤ after.namespaces.length) :
    SameSymbols table later where
  lookup id hid text :=
    (h'.lookup id (hasNamespace_of_length_le hlength hid) text).trans (h.lookup id hid text)
  symbols := h'.symbols.trans h.symbols
  visibility symbol := (h'.visibility symbol).trans (h.visibility symbol)

/-- In tables in which namespaces are called the same, designators mean the same. -/
theorem WellFormed.find?_eq_of_naming? (h : table.WellFormed) (hafter : after.WellFormed)
    (hnaming : ∀ id, after.naming? id = table.naming? id) (designator : Designator) :
    after.find? designator = table.find? designator := by
  cases designator with
  | handle id =>
    have hid : after.hasNamespace id = table.hasNamespace id := by
      rw [Bool.eq_iff_iff, hasNamespace_iff_naming?, hasNamespace_iff_naming?, hnaming]
    rw [find?, find?, hid]
  | named text =>
    apply h.find?_congr hafter
    intro owner
    rw [goesBy_iff_naming?, goesBy_iff_naming?, hnaming]

/-- Tables that agree on symbols and on what namespaces are called agree on everything. -/
theorem SameSymbols.alike (hsymbols : SameSymbols table after) (h : table.WellFormed)
    (hafter : after.WellFormed) (hnaming : ∀ id, after.naming? id = table.naming? id) :
    Alike table after where
  toSameSymbols := hsymbols
  primary id := by rw [name?_eq_naming?, name?_eq_naming?, hnaming]
  further id := by rw [nicknames?_eq_naming?, nicknames?_eq_naming?, hnaming]
  find := h.find?_eq_of_naming? hafter hnaming

/-! ## Renamings that are granted -/

/-- A renaming of an existing namespace is granted exactly when none of the given names belongs to
another namespace. -/
theorem rename_eq_ok_iff (h : table.WellFormed) (hid : table.hasNamespace id = true) :
    (table.rename id name nicknames).1 = some (.ok ()) ↔
      ∀ given ∈ name :: nicknames, ∀ other, table.GoesBy other given → other = id := by
  constructor
  · intro hgranted given hgiven other hother
    have hfree := (table.conflict?_eq_none_iff id _).1 (exists_entry_of_rename hgranted).1
    exact hfree given hgiven other ((h.index_iff given other).2 hother)
  · intro hfree
    have hgranted := (naming?_rename_self hid fun given hgiven owner howner =>
      hfree given hgiven owner ((h.index_iff given owner).1 howner)).1
    rw [hgranted]

/-- A renaming that is granted gives the namespace the names that it asks for. -/
theorem naming?_of_rename (h : (table.rename id name nicknames).1 = some (.ok ())) :
    (table.rename id name nicknames).2.naming? id = some (name, nicknames) := by
  obtain ⟨hfree, entry, hentry⟩ := exists_entry_of_rename h
  exact (naming?_rename_self ((table.hasNamespace_iff id).2 ⟨entry, hentry⟩)
    ((table.conflict?_eq_none_iff id _).1 hfree)).2

/-- A renaming that is granted changes the names of its namespace and nothing else. -/
theorem renamed_rename (h : table.WellFormed)
    (hgranted : (table.rename id name nicknames).1 = some (.ok ())) :
    Renamed table id name nicknames (table.rename id name nicknames).2 := by
  have hafter := h.rename id name nicknames
  have hnaming := naming?_of_rename hgranted
  constructor
  case toSameSymbols => exact sameSymbols_rename h id name nicknames
  case primary => exact name?_of_naming? hnaming
  case further => exact nicknames?_of_naming? hnaming
  case given =>
    intro text hgiven
    apply (hafter.index_iff text id).2
    rw [goesBy_rename hgranted, if_pos rfl]
    exact hgiven
  case former =>
    intro text hformer hgiven
    apply Option.eq_none_iff_forall_not_mem.2
    intro owner howner
    -- whoever goes by the name now has been given it, or had it before as the namespace had
    have hgoes := (goesBy_rename hgranted owner text).1 ((hafter.index_iff text owner).1 howner)
    split at hgoes
    next => exact hgiven hgoes
    next hne => exact hne (h.goesBy_unique hgoes hformer)
  case kept =>
    intro text hformer hgiven
    apply h.find?_congr hafter
    intro owner
    rw [goesBy_rename hgranted]
    split
    next howner =>
      -- the namespace itself goes by the name neither before nor after
      subst howner
      exact iff_of_false hgiven hformer
    next => exact Iff.rfl
  case handle =>
    intro other
    have hother : (table.rename id name nicknames).2.hasNamespace other =
        table.hasNamespace other := by rw [hasNamespace, hasNamespace, length_rename]
    rw [find?, find?, hother]
  case others =>
    intro other hother
    simp only [name?_eq_naming?, nicknames?_eq_naming?, naming?_rename_of_ne hother, and_self]

/-- Renaming a namespace back to its former names is granted and restores the table. -/
theorem alike_rename_rename (h : table.WellFormed)
    (hgranted : (table.rename id name nicknames).1 = some (.ok ())) {former : String}
    {formerNicknames : List String} (hformer : table.naming? id = some (former, formerNicknames)) :
    let after := (table.rename id name nicknames).2
    (after.rename id former formerNicknames).1 = some (.ok ()) ∧
      Alike table (after.rename id former formerNicknames).2 := by
  intro after
  have hafter : after.WellFormed := h.rename id name nicknames
  have hlength : after.namespaces.length = table.namespaces.length := length_rename
  have hid : after.hasNamespace id = true :=
    hasNamespace_of_length_le (Nat.le_of_eq hlength.symm)
      (hasNamespace_iff_naming?.2 ⟨_, hformer⟩)
  -- no other namespace can have taken a former name, as it would have had it before
  have hback : (after.rename id former formerNicknames).1 = some (.ok ()) := by
    apply (rename_eq_ok_iff hafter hid).2
    intro given hgiven other hother
    rw [goesBy_rename hgranted] at hother
    split at hother
    next heq => exact heq
    next => exact h.goesBy_unique hother (goesBy_iff_naming?.2 ⟨_, hformer, hgiven⟩)
  refine ⟨hback, ?_⟩
  have hsymbols : SameSymbols table (after.rename id former formerNicknames).2 :=
    (sameSymbols_rename h id name nicknames).trans
      (sameSymbols_rename hafter id former formerNicknames) (Nat.le_of_eq hlength.symm)
  -- of the names, both renamings change those of the namespace only
  apply hsymbols.alike h (hafter.rename id former formerNicknames)
  intro other
  by_cases hother : other = id
  · subst hother
    rw [naming?_of_rename hback, hformer]
  · rw [naming?_rename_of_ne hother, naming?_rename_of_ne hother]

/-! ## Renamings that are refused -/

/-- Of some names, `taken` is the first that belongs to a namespace other than `id`. The primary
name of that namespace is `text`. -/
structure FirstTaken (table : SymbolTable) (id : NamespaceId) (names : List String)
    (taken text : String) : Prop where
  /-- The names in front belong to no other namespace. -/
  first : ∃ before behind, names = before ++ taken :: behind ∧
    ∀ given ∈ before, ∀ other, table.GoesBy other given → other = id
  /-- The name belongs to another namespace, of that primary name. -/
  owner : ∃ owner, owner ≠ id ∧ table.GoesBy owner taken ∧ table.name? owner = some text

/-- A conflict is that of the first name which belongs to another namespace. -/
theorem exists_firstTaken (h : table.WellFormed) {names : List String} {taken : String}
    {owner : NamespaceId} (hconflict : table.conflict? id names = some (taken, owner)) :
    ∃ text, FirstTaken table id names taken text ∧
      table.inUse taken owner = .nameInUse taken text := by
  obtain ⟨before, behind, hsplit, hbefore, hfind, hne⟩ := exists_of_conflict? hconflict
  obtain ⟨text, htext, hinUse⟩ := inUse_eq h hfind
  refine ⟨text, ⟨⟨before, behind, hsplit, ?_⟩, owner, hne, (h.index_iff _ owner).1 hfind, htext⟩,
    hinUse⟩
  intro given hgiven other hother
  exact (table.conflict?_eq_none_iff id before).1 hbefore given hgiven other
    ((h.index_iff given other).2 hother)

/-- A renaming of an existing namespace that is not granted is refused because of the first name
that is taken, and changes nothing. -/
theorem alike_of_refused (h : table.WellFormed) (hid : table.hasNamespace id = true)
    (hrefused : (table.rename id name nicknames).1 ≠ some (.ok ())) :
    ∃ taken text, FirstTaken table id (name :: nicknames) taken text ∧
      (table.rename id name nicknames).1 = some (.error (.nameInUse taken text)) ∧
      Alike table (table.rename id name nicknames).2 := by
  rcases hconflict : table.conflict? id (name :: nicknames) with _ | ⟨taken, owner⟩
  · -- without a conflict it would be granted
    have hfree := (table.conflict?_eq_none_iff id _).1 hconflict
    exact absurd (congrArg Prod.fst (naming?_rename_self hid hfree).1) hrefused
  · obtain ⟨text, hfirst, hinUse⟩ := exists_firstTaken h hconflict
    have hrename := rename_of_conflict hconflict
    refine ⟨taken, text, hfirst, ?_, ?_⟩
    · rw [hrename, ← hinUse]
    · -- that the names are noted plays no part in what namespaces are called
      apply (sameSymbols_rename h id name nicknames).alike h (h.rename id name nicknames)
      intro other
      rw [hrename]
      rfl

/-! ## All renamings -/

/-- A renaming is all or nothing. It is granted exactly when no given name belongs to another
namespace. Then the namespace has the given names, and renaming it back is granted and restores the
table. Otherwise it is refused because of the first given name that is taken, and nothing
changes. -/
theorem allOrNothing_rename (h : table.Reachable) (hid : table.hasNamespace id = true)
    (name : String) (nicknames : List String) :
    let answer := (table.rename id name nicknames).1
    let after := (table.rename id name nicknames).2
    (answer = some (.ok ()) ↔
      ∀ given ∈ name :: nicknames, ∀ other, table.GoesBy other given → other = id) ∧
    (answer = some (.ok ()) → Renamed table id name nicknames after ∧
      ∃ former formerNicknames, table.name? id = some former ∧
        table.nicknames? id = some formerNicknames ∧
        (after.rename id former formerNicknames).1 = some (.ok ()) ∧
        Alike table (after.rename id former formerNicknames).2) ∧
    (answer ≠ some (.ok ()) → ∃ taken text, FirstTaken table id (name :: nicknames) taken text ∧
      answer = some (.error (.nameInUse taken text)) ∧ Alike table after) := by
  intro answer after
  have hformed := h.wellFormed
  refine ⟨rename_eq_ok_iff hformed hid, ?_, alike_of_refused hformed hid⟩
  intro hgranted
  obtain ⟨⟨former, formerNicknames⟩, hformer⟩ := hasNamespace_iff_naming?.1 hid
  exact ⟨renamed_rename hformed hgranted, former, formerNicknames, name?_of_naming? hformer,
    nicknames?_of_naming? hformer, alike_rename_rename hformed hgranted hformer⟩

/-- A namespace trades its primary name for a nickname, with names that repeat each other. Then it
is refused the name of another namespace, which is the third of four given ones. -/
theorem allOrNothing_rename_traded :
    let table := empty.performAll [.create "A", .create "B", .rename ⟨0⟩ "A" ["M", "N", "M"]]
    let after := (table.rename ⟨0⟩ "M" ["A", "M"]).2
    table.Reachable ∧ table.hasNamespace ⟨0⟩ = true ∧
      Renamed table ⟨0⟩ "M" ["A", "M"] after ∧ after.find? (.named "N") = none ∧
      Alike table (after.rename ⟨0⟩ "A" ["M", "N", "M"]).2 ∧
      (table.rename ⟨0⟩ "C" ["M", "B", "A"]).1 = some (.error (.nameInUse "B" "B")) ∧
      Alike table (table.rename ⟨0⟩ "C" ["M", "B", "A"]).2 := by
  intro table after
  have htable : table.Reachable := Reachable.empty.performAll _
  have hid : table.hasNamespace ⟨0⟩ = true := by decide
  obtain ⟨-, hgranted, -⟩ := allOrNothing_rename htable hid "M" ["A", "M"]
  obtain ⟨-, -, hrefused⟩ := allOrNothing_rename htable hid "C" ["M", "B", "A"]
  obtain ⟨hrenamed, former, formerNicknames, hformer, hnicknames, -, hback⟩ :=
    hgranted (by decide)
  obtain ⟨taken, text, -, -, hsame⟩ := hrefused (by decide)
  obtain rfl : "A" = former := Option.some.inj hformer
  obtain rfl : ["M", "N", "M"] = formerNicknames := Option.some.inj hnicknames
  exact ⟨htable, hid, hrenamed, hrenamed.former "N" ⟨_, rfl, by decide⟩ (by decide), hback,
    by decide, hsame⟩

end SymbolTable

end AliasReader
