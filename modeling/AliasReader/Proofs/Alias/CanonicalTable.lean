import AliasReader.Proofs.Alias.Registration
import AliasReader.Proofs.Text.ByteOrder
import Mathlib.Data.Finset.Card

/-!
# Alias Tables as Finite Maps

A list of pairs may name an alias any number of times, and the table that is made of it keeps the
last of these pairs. Whatever order the entries of a hash table come in, sorting them by their
aliases gives the entries of the table. So the entries tell two tables apart, and pairs may be
rearranged or left out as long as the last pair of every alias stays the same.

## Main definitions

* `AliasTable.IsLast`: a pair is the last one with its alias;
* `AliasTable.hashed`: the table of a list of pairs as a hash map;
* `AliasTable.Canonical`: what the entries of a table say about the pairs.

## Main results

* `AliasTable.find?_ofPairs_eq_some_iff`: an alias has the designator of its last pair;
* `AliasTable.eq_of_find?_eq`: tables in which the same aliases have the same designators are equal;
* `AliasTable.eq_entries_of_sorted`: there is one way only to sort the entries of a table;
* `AliasTable.entries_perm_toList_hashed`: the hash map has the entries of the table;
* `AliasTable.canonical`: the entries are a canonical form of the pairs.
-/

namespace AliasReader

namespace AliasTable

variable {pairs others : List (Designator × String)} {key : String} {designator : Designator}

/-! ## The last pair of an alias -/

/-- The designator is given to the alias by a pair, and by no pair behind it is the alias given
another one. -/
def IsLast (pairs : List (Designator × String)) (key : String) (designator : Designator) : Prop :=
  ∃ before after, pairs = before ++ (designator, key) :: after ∧ ∀ pair ∈ after, pair.2 ≠ key

/-- An alias has the designator of its last pair. -/
theorem find?_ofPairs_eq_some_iff :
    (ofPairs pairs).find? key = some designator ↔ IsLast pairs key designator := by
  constructor
  · intro hfind
    rw [find?_ofPairs] at hfind
    obtain ⟨⟨_, other⟩, hpair, rfl⟩ := Option.map_eq_some_iff.1 hfind
    obtain ⟨hother, after, before, hsplit, hafter⟩ := List.find?_eq_some_iff_append.1 hpair
    obtain rfl : other = key := by simpa using hother
    -- what was looked through in vain stands behind the pair
    refine ⟨before.reverse, after.reverse, ?_, fun pair hmem => ?_⟩
    · rw [← List.reverse_reverse pairs, hsplit, List.reverse_append, List.reverse_cons,
        List.append_assoc, List.singleton_append]
    · simpa using hafter pair (List.mem_reverse.1 hmem)
  · rintro ⟨before, after, rfl, hlast⟩
    exact find?_ofPairs_of_last hlast

/-- Where the aliases are all different, every pair is the last one of its alias. -/
theorem isLast_iff_mem (hdifferent : (pairs.map Prod.snd).Nodup) :
    IsLast pairs key designator ↔ (designator, key) ∈ pairs := by
  constructor
  · rintro ⟨before, after, rfl, -⟩
    simp
  · intro hmem
    obtain ⟨before, after, rfl⟩ := List.append_of_mem hmem
    refine ⟨before, after, rfl, fun pair hpair hsame => ?_⟩
    rw [List.map_append, List.map_cons, List.nodup_append] at hdifferent
    exact (List.nodup_cons.1 hdifferent.2.1).1 (List.mem_map.2 ⟨pair, hpair, hsame⟩)

/-! ## Tables and their entries -/

/-- An alias and a designator are an entry of a table when the designator is found under the
alias. -/
theorem mem_entries_iff (table : AliasTable) :
    (key, designator) ∈ table.entries ↔ table.find? key = some designator :=
  (table.ascending.find?_eq_some_iff key designator).symm

/-- No entry of a table comes twice. -/
theorem nodup_entries (table : AliasTable) : table.entries.Nodup := by
  refine table.ascending.imp fun {e f} hlt heq => ?_
  rw [heq] at hlt
  exact String.lt_irrefl _ hlt

/-- The aliases of a table do not descend. -/
theorem pairwise_le_entries (table : AliasTable) :
    table.entries.Pairwise fun e f => e.1 ≤ f.1 :=
  table.ascending.imp fun hlt => String.not_lt.1 (String.lt_asymm hlt)

/-- However the entries of a table are put in the order of their aliases, they come out the same. -/
theorem eq_entries_of_sorted {table : AliasTable} {listed : List (String × Designator)}
    (hperm : listed.Perm table.entries) (hsorted : listed.Pairwise fun e f => e.1 ≤ f.1) :
    listed = table.entries := by
  refine hperm.eq_of_pairwise ?_ hsorted table.pairwise_le_entries
  -- entries that may stand in either order have one alias, and with it one designator
  rintro ⟨key, designator⟩ ⟨other, second⟩ he hf hle hge
  obtain rfl : key = other := String.le_antisymm hle hge
  have hfirst := table.mem_entries_iff.1 (hperm.mem_iff.1 he)
  have hsecond := table.mem_entries_iff.1 hf
  rw [Option.some.inj (hfirst.symm.trans hsecond)]

/-- Tables in which the same aliases have the same designators are equal. -/
theorem eq_of_find?_eq {first second : AliasTable}
    (h : ∀ key, first.find? key = second.find? key) : first = second := by
  have hperm : first.entries.Perm second.entries := by
    refine (List.perm_ext_iff_of_nodup first.nodup_entries second.nodup_entries).2 ?_
    rintro ⟨key, designator⟩
    rw [mem_entries_iff, mem_entries_iff, h]
  exact ext_entries (eq_entries_of_sorted hperm first.pairwise_le_entries)

/-- Two lists of pairs make one table when the last pairs of all aliases are the same. -/
theorem ofPairs_eq_iff :
    ofPairs pairs = ofPairs others ↔
      ∀ key designator, IsLast pairs key designator ↔ IsLast others key designator := by
  simp only [← find?_ofPairs_eq_some_iff]
  constructor
  · intro hequal key designator
    rw [hequal]
  · intro h
    exact eq_of_find?_eq fun key => Option.ext (h key)

/-- Pairs with different aliases may come in any order. -/
theorem ofPairs_perm (hdifferent : (pairs.map Prod.snd).Nodup) (hperm : others.Perm pairs) :
    ofPairs others = ofPairs pairs := by
  have hothers : (others.map Prod.snd).Nodup := (hperm.map Prod.snd).nodup_iff.2 hdifferent
  refine ofPairs_eq_iff.2 fun key designator => ?_
  rw [isLast_iff_mem hothers, isLast_iff_mem hdifferent, hperm.mem_iff]

/-- A pair may be left out when a later one has its alias. -/
theorem ofPairs_remove (before : List (Designator × String)) {after : List (Designator × String)}
    (designator : Designator) (hlater : key ∈ after.map Prod.snd) :
    ofPairs (before ++ after) = ofPairs (before ++ (designator, key) :: after) := by
  refine eq_of_find?_eq fun other => ?_
  simp only [find?_ofPairs, List.reverse_append, List.reverse_cons, List.append_assoc,
    List.find?_append]
  cases hafter : after.reverse.find? (·.2 = other) with
  | some pair => rfl
  | none =>
    -- the pair has an alias that comes again, so it is not the one that is looked for
    have hother : key ≠ other := by
      rintro rfl
      obtain ⟨pair, hpair, hkey⟩ := List.mem_map.1 hlater
      exact List.find?_eq_none.1 hafter pair (List.mem_reverse.2 hpair) (by simpa using hkey)
    simp [hother]

/-- A table has an alias for each of those that are given. -/
theorem size_ofPairs (pairs : List (Designator × String)) :
    (ofPairs pairs).size = (pairs.map Prod.snd).toFinset.card := by
  have hnodup : ((ofPairs pairs).entries.map Prod.fst).Nodup :=
    List.pairwise_map.2 ((ofPairs pairs).ascending.imp String.ne_of_lt)
  have hkeys : ((ofPairs pairs).entries.map Prod.fst).toFinset =
      (pairs.map Prod.snd).toFinset := by
    ext key
    have hfind : (∃ designator, (ofPairs pairs).find? key = some designator) ↔
        key ∈ pairs.map Prod.snd := by
      rw [← Option.isSome_iff_exists, find?_ofPairs, Option.isSome_map, List.find?_isSome]
      simp
    rw [List.mem_toFinset, List.mem_toFinset, ← hfind]
    simp [mem_entries_iff]
  rw [← hkeys, List.toFinset_card_of_nodup hnodup, List.length_map]
  rfl

/-! ## Hash maps -/

/-- The table of a list of pairs as a hash map, in which later pairs replace earlier ones. -/
def hashed (pairs : List (Designator × String)) : Std.HashMap String Designator :=
  Std.HashMap.ofList (pairs.map Prod.swap)

/-- Pairs that are put into a hash map and into a table with the same designators leave them with the
same designators. -/
private theorem getElem?_foldl_insert (pairs : List (Designator × String))
    {map : Std.HashMap String Designator} {table : AliasTable}
    (hsame : ∀ key, map[key]? = table.find? key) (key : String) :
    ((pairs.map Prod.swap).foldl (fun map pair => map.insert pair.1 pair.2) map)[key]? =
      (pairs.foldl (fun table (designator, key) => table.insert key designator) table).find?
        key := by
  induction pairs generalizing map table with
  | nil => exact hsame key
  | cons pair pairs ih =>
    obtain ⟨designator, other⟩ := pair
    refine ih (fun key => ?_)
    rw [find?_insert, Std.HashMap.getElem?_insert, hsame, Prod.snd_swap, Prod.fst_swap]
    simp only [beq_iff_eq, eq_comm (a := other)]

/-- The hash map has the designators of the table. -/
theorem getElem?_hashed (pairs : List (Designator × String)) (key : String) :
    (hashed pairs)[key]? = (ofPairs pairs).find? key := by
  rw [hashed, Std.HashMap.ofList_equiv_foldl.getElem?_eq]
  exact getElem?_foldl_insert pairs (fun key => Std.HashMap.getElem?_empty) key

/-- The hash map has the entries of the table, in some order. -/
theorem entries_perm_toList_hashed (pairs : List (Designator × String)) :
    (ofPairs pairs).entries.Perm (hashed pairs).toList := by
  have hnodup : (hashed pairs).toList.Nodup := by
    refine Std.HashMap.distinct_keys_toList.imp fun {e f} hkeys heq => ?_
    simp [heq] at hkeys
  refine (List.perm_ext_iff_of_nodup (nodup_entries _) hnodup).2 ?_
  rintro ⟨key, designator⟩
  rw [mem_entries_iff, Std.HashMap.mem_toList_iff_getElem?_eq_some, getElem?_hashed]

/-- Hash maps are equal when the tables are. -/
theorem hashed_beq_iff :
    (hashed pairs == hashed others) = true ↔ ofPairs pairs = ofPairs others := by
  rw [Std.HashMap.beq_iff_equiv]
  constructor
  · intro hequiv
    refine eq_of_find?_eq fun key => ?_
    rw [← getElem?_hashed, ← getElem?_hashed, hequiv.getElem?_eq]
  · intro hequal
    refine Std.HashMap.Equiv.of_forall_getElem?_eq fun key => ?_
    rw [getElem?_hashed, getElem?_hashed, hequal]

/-! ## The canonical form -/

/-- The entries of the table of a list of pairs are a canonical form of the pairs. -/
structure Canonical (pairs : List (Designator × String)) : Prop where
  /-- The aliases ascend strictly in the order of their bytes. -/
  ascending : (ofPairs pairs).entries.Pairwise fun e f => utf8Bytes e.1 < utf8Bytes f.1
  /-- The entries are the last pairs of the aliases. -/
  mem_iff : ∀ key designator,
    (key, designator) ∈ (ofPairs pairs).entries ↔ IsLast pairs key designator
  /-- There are as many entries as the table has aliases. -/
  length_eq : (ofPairs pairs).entries.length = (ofPairs pairs).size
  /-- The table has as many aliases as are given, each counted once. -/
  size_eq : (ofPairs pairs).size = (pairs.map Prod.snd).toFinset.card
  /-- The hash map has as many entries. -/
  size_hashed_eq : (hashed pairs).size = (ofPairs pairs).size
  /-- The entries of the hash map, sorted in any way, are the entries of the table. -/
  sorted_iff : ∀ listed : List (String × Designator),
    listed.Perm (hashed pairs).toList ∧
        listed.Pairwise (fun e f => utf8Bytes e.1 ≤ utf8Bytes f.1) ↔
      listed = (ofPairs pairs).entries
  /-- Tables are equal exactly when their entries are. -/
  equal_iff : ∀ others,
    ofPairs pairs = ofPairs others ↔ (ofPairs pairs).entries = (ofPairs others).entries
  /-- Hash maps are equal exactly when the entries are. -/
  hashed_equal_iff : ∀ others, (hashed pairs == hashed others) = true ↔
    (ofPairs pairs).entries = (ofPairs others).entries
  /-- Tables are equal exactly when the last pairs are. -/
  last_iff : ∀ others, ofPairs pairs = ofPairs others ↔
    ∀ key designator, IsLast pairs key designator ↔ IsLast others key designator
  /-- Pairs with different aliases may come in any order. -/
  permuted : (pairs.map Prod.snd).Nodup → ∀ others : List (Designator × String),
    others.Perm pairs → ofPairs others = ofPairs pairs
  /-- A pair may be left out when a later one has its alias. -/
  overridden : ∀ before designator key after, pairs = before ++ (designator, key) :: after →
    key ∈ after.map Prod.snd → ofPairs (before ++ after) = ofPairs pairs

/-- The table of any list of pairs is told by its entries, which the last pair of each alias makes
up, in the order of the aliases. -/
theorem canonical (pairs : List (Designator × String)) : Canonical pairs := by
  have hequal (others : List (Designator × String)) :
      ofPairs pairs = ofPairs others ↔ (ofPairs pairs).entries = (ofPairs others).entries :=
    ⟨congrArg entries, ext_entries⟩
  have hperm := entries_perm_toList_hashed pairs
  have hascending : (ofPairs pairs).entries.Pairwise fun e f => utf8Bytes e.1 < utf8Bytes f.1 :=
    (ofPairs pairs).ascending.imp (lt_iff_utf8Bytes_lt _ _).1
  exact {
    ascending := hascending
    mem_iff := fun key designator => (mem_entries_iff _).trans find?_ofPairs_eq_some_iff
    length_eq := rfl
    size_eq := size_ofPairs pairs
    size_hashed_eq := Std.HashMap.length_toList.symm.trans hperm.length_eq.symm
    sorted_iff := by
      intro listed
      constructor
      · rintro ⟨hlisted, hsorted⟩
        refine eq_entries_of_sorted (hlisted.trans hperm.symm) (hsorted.imp fun {e f} hle => ?_)
        exact String.not_lt.1 fun hlt => List.not_lt.2 hle ((lt_iff_utf8Bytes_lt _ _).1 hlt)
      · rintro rfl
        exact ⟨hperm, hascending.imp List.le_of_lt⟩
    equal_iff := hequal
    hashed_equal_iff := fun others => hashed_beq_iff.trans (hequal others)
    last_iff := fun others => ofPairs_eq_iff
    permuted := fun hdifferent others hperm => ofPairs_perm hdifferent hperm
    overridden := by
      rintro before designator key after rfl hlater
      exact ofPairs_remove before designator hlater }

example :
    (ofPairs [(.named "ONE", "x"), (.named "TWO", "X"), (.named "THREE", "x")]).entries =
      [("X", .named "TWO"), ("x", .named "THREE")] := by
  decide

end AliasTable

end AliasReader
