import AliasReader.Proofs.Alias.Resolution
import AliasReader.Proofs.Alias.Withdrawal
import Mathlib.Data.Set.Card

/-!
# Names Under Exposed Aliases

Aliases are exposed in ascending order, and each designator is looked up in the symbol table in
which the earlier aliases are nicknames already. Hence an alias stands for a namespace in one of
two ways: its designator means the namespace by itself, or it spells the nickname of an earlier
alias that stands for it. Unless one of these nicknames belongs to another namespace, exactly the
aliases that stand for a namespace are exposed; otherwise none is.

## Main definitions

* `Exposure.StandsFor`: the namespace that an alias stands for when it is exposed;
* `Exposure.Shows`: what the aliases exposed so far add to the names.

## Main results

* `Exposure.ofAliases_exposes`: which names stand for what while aliases are exposed.
-/

namespace AliasReader

namespace Exposure

theorem nickname_inj {trigger : Char} {key other : String} :
    nickname trigger key = nickname trigger other ↔ key = other := by
  rw [nickname, nickname, String.ofList_inj, List.cons_inj_right, String.toList_inj]

/-- An alias of the namespace `id` stands for a namespace when aliases are exposed: it can be
resolved as it is, or its designator means nothing by itself and spells the nickname of an earlier
alias that stands for the namespace. -/
inductive StandsFor (host : SymbolTable) (registry : AliasRegistry) (id : NamespaceId)
    (trigger : Char) : String → NamespaceId → Prop
  /-- The alias can be resolved. -/
  | resolved {key : String} {target : NamespaceId} :
      registry.resolve host id key = .ok target → StandsFor host registry id trigger key target
  /-- The designator is the nickname of an earlier alias. -/
  | chained {key other : String} {target : NamespaceId} :
      (registry.table? id).bind (·.find? key) = some (.named (nickname trigger other)) →
      host.find? (.named (nickname trigger other)) = none → other < key →
      StandsFor host registry id trigger other target →
      StandsFor host registry id trigger key target

/-- The aliases of a list that stand for something. -/
def shown (host : SymbolTable) (registry : AliasRegistry) (id : NamespaceId) (trigger : Char)
    (processed : List (String × Designator)) : Set String :=
  {key | key ∈ processed.map Prod.fst ∧ ∃ target, StandsFor host registry id trigger key target}

section StandsFor

variable {host : SymbolTable} {registry : AliasRegistry} {id : NamespaceId} {trigger : Char}

/-- An alias that stands for something has a designator. -/
theorem StandsFor.exists_designator {key : String} {target : NamespaceId}
    (h : StandsFor host registry id trigger key target) :
    ∃ designator, (registry.table? id).bind (·.find? key) = some designator := by
  cases h with
  | resolved hresolve =>
    obtain ⟨designator, hkey, -⟩ := AliasRegistry.resolve_eq_ok_iff.1 hresolve
    exact ⟨designator, hkey⟩
  | chained hkey _ _ _ => exact ⟨_, hkey⟩

/-- An alias stands for one namespace. -/
theorem StandsFor.unique {key : String} {target target' : NamespaceId}
    (h : StandsFor host registry id trigger key target)
    (h' : StandsFor host registry id trigger key target') : target = target' := by
  induction h generalizing target' with
  | resolved hresolve =>
    obtain ⟨designator, hkey, hfind⟩ := AliasRegistry.resolve_eq_ok_iff.1 hresolve
    cases h' with
    | resolved hresolve' => exact Except.ok.inj (hresolve.symm.trans hresolve')
    | chained hkey' hnone' _ _ =>
      obtain rfl := Option.some.inj (hkey.symm.trans hkey')
      rw [hnone'] at hfind
      cases hfind
  | chained hkey hnone _ _ ih =>
    cases h' with
    | resolved hresolve' =>
      obtain ⟨designator, hkey', hfind'⟩ := AliasRegistry.resolve_eq_ok_iff.1 hresolve'
      obtain rfl := Option.some.inj (hkey.symm.trans hkey')
      rw [hnone] at hfind'
      cases hfind'
    | chained hkey' _ _ hother' =>
      -- both designators spell the nickname of the same alias
      have hsame := Designator.named.inj (Option.some.inj (hkey.symm.trans hkey'))
      obtain rfl := nickname_inj.1 hsame
      exact ih hother'

end StandsFor

/-! ## The next alias -/

/-- The names after a namespace was given one more nickname. -/
theorem find?_rename_of_free {opened : SymbolTable} (hopened : opened.WellFormed)
    {target : NamespaceId} {name added : String} {nicknames : List String}
    (hnaming : opened.naming? target = some (name, nicknames)) (hfree : opened.Free target added)
    (text : String) :
    (opened.rename target name (nicknames ++ [added])).2.find? (.named text) =
      if text = added then some target else opened.find? (.named text) := by
  have hid := SymbolTable.hasNamespace_iff_naming?.2 ⟨_, hnaming⟩
  have hafter := hopened.rename target name (nicknames ++ [added])
  have hrenamed := (SymbolTable.naming?_rename_self hid (free_of_naming? hopened hnaming hfree)).2
  apply Option.ext
  intro owner
  -- a name means a namespace exactly when that goes by it
  have hfind : (opened.rename target name (nicknames ++ [added])).2.find? (.named text) =
      some owner ↔ _ := hafter.index_iff text owner
  rw [hfind, SymbolTable.goesBy_iff_naming?]
  by_cases howner : owner = target
  · subst howner
    rw [hrenamed]
    by_cases htext : text = added
    · simp [htext]
    · have hindex := hopened.index_iff text owner
      rw [SymbolTable.goesBy_iff_naming?, hnaming] at hindex
      rw [if_neg htext, SymbolTable.find?, hindex]
      simp [htext]
  · rw [SymbolTable.naming?_rename_of_ne howner, ← SymbolTable.goesBy_iff_naming?,
      ← hopened.index_iff]
    by_cases htext : text = added
    · -- the added name belongs to no other namespace
      subst htext
      have hother : opened.index.find? text ≠ some owner := fun hfind => howner (hfree owner hfind)
      simp [hother, Ne.symm howner]
    · rw [if_neg htext, SymbolTable.find?]

/-- What the processed aliases of a list add to the names of a symbol table, when none of them
was refused. -/
structure Shows (host : SymbolTable) (registry : AliasRegistry) (id : NamespaceId)
    (trigger : Char) (processed : List (String × Designator)) (opened : SymbolTable)
    (exposure : Exposure) : Prop where
  /-- The namespaces have further nicknames only. -/
  opens : Opens host opened exposure
  /-- The nicknames of the aliases stand for what the aliases stand for. -/
  find?_iff : ∀ name target, opened.find? (.named name) = some target ↔
    host.find? (.named name) = some target ∨
      ∃ key ∈ processed.map Prod.fst, StandsFor host registry id trigger key target ∧
        name = nickname trigger key
  /-- There is a record for each of the aliases that stand for something. -/
  encard : (shown host registry id trigger processed).encard = exposure.size
  /-- None of the nicknames belonged to another namespace. -/
  free : ∀ key ∈ processed.map Prod.fst, ∀ target,
    StandsFor host registry id trigger key target → host.Free target (nickname trigger key)

theorem shows_nil {host : SymbolTable} (h : host.Reachable) (registry : AliasRegistry)
    (id : NamespaceId) (trigger : Char) : Shows host registry id trigger [] host empty where
  opens := opens_empty h
  find?_iff := by simp
  encard := by simp [shown, size, empty]
  free := by simp

section Next

variable {host opened : SymbolTable} {registry : AliasRegistry} {id : NamespaceId}
  {trigger : Char} {table : AliasTable} {processed rest : List (String × Designator)}
  {key : String} {designator : Designator} {exposure : Exposure}

/-- The processed aliases are the ones before the next alias. -/
theorem mem_processed_iff (hentries : table.entries = processed ++ (key, designator) :: rest)
    {other : String} {named : Designator} (hother : table.find? other = some named) :
    other ∈ processed.map Prod.fst ↔ other < key := by
  have hascending := table.ascending
  have hmem := (hascending.find?_eq_some_iff other named).1 hother
  change table.entries.Pairwise _ at hascending
  change (other, named) ∈ table.entries at hmem
  rw [hentries, List.pairwise_append, List.pairwise_cons] at hascending
  rw [hentries, List.mem_append, List.mem_cons] at hmem
  obtain ⟨-, ⟨hlater, -⟩, hearlier⟩ := hascending
  constructor
  · intro hprocessed
    obtain ⟨entry, hentry, rfl⟩ := List.mem_map.1 hprocessed
    exact hearlier entry hentry _ List.mem_cons_self
  · intro hlt
    rcases hmem with hmem | heq | hmem
    · exact List.mem_map_of_mem hmem
    · obtain ⟨rfl, rfl⟩ := Prod.mk.inj heq
      exact absurd hlt (String.lt_irrefl other)
    · exact absurd hlt (String.lt_asymm (hlater _ hmem))

/-- The aliases of a list with one entry more. -/
theorem mem_keys_concat {other : String} :
    other ∈ (processed ++ [(key, designator)]).map Prod.fst ↔
      other ∈ processed.map Prod.fst ∨ other = key := by
  rw [List.map_append, List.mem_append, List.map_singleton, List.mem_singleton]

/-- An alias that stands for nothing adds nothing. -/
theorem Shows.skip (h : Shows host registry id trigger processed opened exposure)
    (hnone : ∀ target, ¬ StandsFor host registry id trigger key target) :
    Shows host registry id trigger (processed ++ [(key, designator)]) opened exposure := by
  refine ⟨h.opens, ?_, ?_, ?_⟩
  · intro name target
    rw [h.find?_iff]
    simp only [mem_keys_concat, or_and_right, exists_or, exists_eq_left, hnone, false_and, or_false]
  · rw [← h.encard]
    congr 1
    ext other
    simp only [shown, Set.mem_ofPred_eq, mem_keys_concat]
    constructor
    · rintro ⟨hmem | rfl, target, hstands⟩
      · exact ⟨hmem, target, hstands⟩
      · exact absurd hstands (hnone target)
    · rintro ⟨hmem, hstands⟩
      exact ⟨Or.inl hmem, hstands⟩
  · intro other hmem target hstands
    rcases mem_keys_concat.1 hmem with hmem | rfl
    · exact h.free other hmem target hstands
    · exact absurd hstands (hnone target)

variable (htable : registry.table? id = some table)
  (hentries : table.entries = processed ++ (key, designator) :: rest)
  (h : Shows host registry id trigger processed opened exposure)

include htable hentries

theorem bind_find?_next : (registry.table? id).bind (·.find? key) = some designator := by
  rw [htable, Option.bind_some]
  refine (table.ascending.find?_eq_some_iff key designator).2 ?_
  change (key, designator) ∈ table.entries
  rw [hentries]
  exact List.mem_append_right _ List.mem_cons_self

theorem key_notMem_processed : key ∉ processed.map Prod.fst := by
  have hkey := bind_find?_next htable hentries
  rw [htable, Option.bind_some] at hkey
  rw [mem_processed_iff hentries hkey]
  exact String.lt_irrefl key

include h

/-- The next designator means in the opened symbol table what its alias stands for. -/
theorem Shows.find?_designator (target : NamespaceId) :
    opened.find? designator = some target ↔ StandsFor host registry id trigger key target := by
  have hkey := bind_find?_next htable hentries
  constructor
  · intro hfind
    cases designator with
    | handle other =>
      rw [SymbolTable.find?, h.opens.hasNamespace_eq] at hfind
      exact .resolved (AliasRegistry.resolve_eq_ok_iff.2 ⟨_, hkey, hfind⟩)
    | named name =>
      cases hbefore : host.find? (.named name) with
      | some owner =>
        -- what meant something before means the same
        have hsame := (h.find?_iff name owner).2 (Or.inl hbefore)
        obtain rfl := Option.some.inj (hfind.symm.trans hsame)
        exact .resolved (AliasRegistry.resolve_eq_ok_iff.2 ⟨_, hkey, hbefore⟩)
      | none =>
        rcases (h.find?_iff name target).1 hfind with hold | ⟨other, hmem, hother, rfl⟩
        · rw [hbefore] at hold
          cases hold
        · obtain ⟨named, hnamed⟩ := hother.exists_designator
          rw [htable, Option.bind_some] at hnamed
          exact .chained hkey hbefore ((mem_processed_iff hentries hnamed).1 hmem) hother
  · intro hstands
    cases hstands with
    | resolved hresolve =>
      obtain ⟨found, hfound, hfind⟩ := AliasRegistry.resolve_eq_ok_iff.1 hresolve
      obtain rfl := Option.some.inj (hkey.symm.trans hfound)
      cases designator with
      | handle other =>
        rw [SymbolTable.find?, h.opens.hasNamespace_eq]
        exact hfind
      | named name => exact (h.find?_iff name target).2 (Or.inl hfind)
    | @chained _ other _ hkey' _ hlt hother =>
      obtain rfl := Option.some.inj (hkey.symm.trans hkey')
      obtain ⟨named, hnamed⟩ := hother.exists_designator
      rw [htable, Option.bind_some] at hnamed
      have hmem := (mem_processed_iff hentries hnamed).2 hlt
      exact (h.find?_iff _ target).2 (Or.inr ⟨other, hmem, hother, rfl⟩)

/-- The processed aliases leave the nickname of the next one free or taken as it was. -/
theorem Shows.free_iff (target : NamespaceId) :
    opened.Free target (nickname trigger key) ↔ host.Free target (nickname trigger key) := by
  refine forall_congr' fun owner => imp_congr_left ?_
  rw [h.find?_iff]
  refine ⟨fun hor => hor.resolve_right ?_, Or.inl⟩
  rintro ⟨other, hmem, -, hsame⟩
  obtain rfl := nickname_inj.1 hsame
  exact key_notMem_processed htable hentries hmem

/-- An alias that stands for a namespace adds its nickname, when that is free. -/
theorem Shows.add {target : NamespaceId} {name : String} {nicknames : List String}
    (hstands : StandsFor host registry id trigger key target)
    (hnaming : opened.naming? target = some (name, nicknames))
    (hfree : opened.Free target (nickname trigger key)) :
    Shows host registry id trigger (processed ++ [(key, designator)])
      (opened.rename target name (nicknames ++ [nickname trigger key])).2
      ⟨(target, name, nicknames) :: exposure.earlier⟩ := by
  have hnew := key_notMem_processed htable hentries
  have hfreeBefore := (h.free_iff htable hentries target).1 hfree
  refine ⟨h.opens.rename hnaming hfree, ?_, ?_, ?_⟩
  · intro text owner
    rw [find?_rename_of_free h.opens.reachable.wellFormed hnaming hfree]
    by_cases htext : text = nickname trigger key
    · -- the nickname stands for what the alias stands for
      rw [if_pos htext, Option.some.injEq]
      subst htext
      constructor
      · rintro rfl
        exact Or.inr ⟨key, mem_keys_concat.2 (Or.inr rfl), hstands, rfl⟩
      · rintro (hold | ⟨other, -, hother, hsame⟩)
        · exact (hfreeBefore owner hold).symm
        · obtain rfl := nickname_inj.1 hsame
          exact hstands.unique hother
    · -- any other name stands for what it stood for
      rw [if_neg htext, h.find?_iff]
      refine or_congr_right (exists_congr fun other => ?_)
      rw [mem_keys_concat, or_and_right, or_iff_left]
      rintro ⟨rfl, -, hsame⟩
      exact htext hsame
  · have hshown : shown host registry id trigger (processed ++ [(key, designator)]) =
        insert key (shown host registry id trigger processed) := by
      ext other
      simp only [shown, Set.mem_insert_iff, Set.mem_ofPred_eq, mem_keys_concat]
      constructor
      · rintro ⟨hmem | rfl, hother⟩
        · exact Or.inr ⟨hmem, hother⟩
        · exact Or.inl rfl
      · rintro (rfl | ⟨hmem, hother⟩)
        · exact ⟨Or.inr rfl, target, hstands⟩
        · exact ⟨Or.inl hmem, hother⟩
    rw [hshown, Set.encard_insert_of_notMem fun hmem => hnew hmem.1, h.encard]
    rfl
  · intro other hmem owner hother
    rcases mem_keys_concat.1 hmem with hmem | rfl
    · exact h.free other hmem owner hother
    · rwa [← hstands.unique hother]

end Next

/-! ## All aliases -/

section All

variable {host opened : SymbolTable} {registry : AliasRegistry} {id : NamespaceId}
  {trigger : Char} {exposure : Exposure}

/-- Some alias stands for a namespace while its nickname belongs to another one. -/
def Conflict (host : SymbolTable) (registry : AliasRegistry) (id : NamespaceId)
    (trigger : Char) : Prop :=
  ∃ key target, StandsFor host registry id trigger key target ∧
    ¬ host.Free target (nickname trigger key)

/-- Exposing the remaining aliases of a table shows all that stand for something, or none when
there is a conflict. -/
theorem Shows.extend {table : AliasTable} (htable : registry.table? id = some table)
    {processed rest : List (String × Designator)} (hentries : table.entries = processed ++ rest)
    (h : Shows host registry id trigger processed opened exposure) :
    Shows host registry id trigger table.entries
        (Exposure.extend trigger rest (opened, exposure)).1
        (Exposure.extend trigger rest (opened, exposure)).2 ∨
      (Exposure.extend trigger rest (opened, exposure)).2 = empty ∧
        Conflict host registry id trigger := by
  -- by induction on the aliases that remain
  induction rest generalizing processed opened exposure with
  | nil =>
    rw [List.append_nil] at hentries
    rw [hentries]
    exact Or.inl h
  | cons entry rest ih =>
    obtain ⟨key, designator⟩ := entry
    have hopened := h.opens.reachable.wellFormed
    have hnext : table.entries = (processed ++ [(key, designator)]) ++ rest := by
      rw [List.append_assoc, hentries, List.singleton_append]
    have hdesignator := h.find?_designator htable hentries
    cases hfind : opened.find? designator with
    | none =>
      rw [extend_of_none hfind]
      refine ih hnext (h.skip fun target hstands => ?_)
      rw [(hdesignator target).2 hstands] at hfind
      cases hfind
    | some target =>
      have hstands := (hdesignator target).1 hfind
      obtain ⟨name, nicknames, hnaming⟩ := exists_naming? hopened hfind
      by_cases hfree : opened.Free target (nickname trigger key)
      · rw [extend_of_free hopened hfind hnaming hfree]
        exact ih hnext (h.add htable hentries hstands hnaming hfree)
      · rw [extend_of_not_free hfind hnaming hfree]
        exact Or.inr ⟨rfl, key, target, hstands,
          fun hbefore => hfree ((h.free_iff htable hentries target).2 hbefore)⟩

theorem shows_ofAliases (hhost : host.Reachable) (registry : AliasRegistry) (id : NamespaceId)
    (trigger : Char) :
    (∃ processed, Shows host registry id trigger processed (ofAliases host registry id trigger).1
        (ofAliases host registry id trigger).2 ∧
      ∀ key target, StandsFor host registry id trigger key target →
        key ∈ processed.map Prod.fst) ∨
      (ofAliases host registry id trigger).2 = empty ∧ Conflict host registry id trigger := by
  have hnil := shows_nil hhost registry id trigger
  unfold ofAliases
  cases htable : registry.table? id with
  | none =>
    refine Or.inl ⟨[], hnil, fun key target hstands => ?_⟩
    obtain ⟨designator, hkey⟩ := hstands.exists_designator
    rw [htable] at hkey
    cases hkey
  | some table =>
    refine (hnil.extend htable rfl).imp_left fun hshows => ⟨table.entries, hshows, ?_⟩
    intro key target hstands
    -- an alias with a designator has an entry in the table
    obtain ⟨designator, hkey⟩ := hstands.exists_designator
    rw [htable, Option.bind_some] at hkey
    exact List.mem_map_of_mem ((table.ascending.find?_eq_some_iff key designator).1 hkey)

/-- With nothing exposed every name means what it meant. -/
theorem Opens.find?_of_empty (hhost : host.Reachable) (h : Opens host opened empty)
    (name : String) : opened.find? (.named name) = host.find? (.named name) := by
  refine hhost.wellFormed.find?_congr h.reachable.wellFormed fun owner => ?_
  rw [SymbolTable.goesBy_iff_naming?, SymbolTable.goesBy_iff_naming?, h.naming?_of_none rfl]

theorem Opens.name?_eq (h : Opens host opened exposure) (ns : NamespaceId) :
    opened.name? ns = host.name? ns := by
  rw [SymbolTable.name?_eq_naming?, SymbolTable.name?_eq_naming?]
  cases hbefore : host.naming? ns with
  | some naming =>
    obtain ⟨added, hopened, -⟩ := h.naming ns naming.1 naming.2 hbefore
    rw [hopened]
    rfl
  | none =>
    have hrecord : exposure.original? ns = none := by
      by_contra hsome
      obtain ⟨naming, horiginal⟩ := Option.ne_none_iff_exists'.1 hsome
      rw [h.recalls.original ns naming horiginal] at hbefore
      cases hbefore
    rw [h.naming?_of_none hrecord, hbefore]

end All

/-- While aliases are exposed, the nickname of every alias that stands for a namespace means that
namespace, every other name means what it meant, the primary names are the same, and as many
aliases are exposed as stand for a namespace. When one of these nicknames belongs to another
namespace, nothing is exposed and all names are as before. -/
theorem ofAliases_exposes {host : SymbolTable} (hhost : host.Reachable)
    (registry : AliasRegistry) (id : NamespaceId) (trigger : Char) :
    let opened := (ofAliases host registry id trigger).1
    let exposure := (ofAliases host registry id trigger).2
    ((∀ key target, StandsFor host registry id trigger key target →
        host.Free target (nickname trigger key)) →
      (∀ key target, StandsFor host registry id trigger key target →
        opened.find? (.named (nickname trigger key)) = some target) ∧
      (∀ name, (∀ key target, StandsFor host registry id trigger key target →
        name ≠ nickname trigger key) →
          opened.find? (.named name) = host.find? (.named name)) ∧
      (∀ ns, opened.name? ns = host.name? ns) ∧
      {key | ∃ target, StandsFor host registry id trigger key target}.encard = exposure.size) ∧
    ((∃ key target, StandsFor host registry id trigger key target ∧
        ¬ host.Free target (nickname trigger key)) →
      exposure.size = 0 ∧
      (∀ name, opened.find? (.named name) = host.find? (.named name)) ∧
      ∀ ns, opened.name? ns = host.name? ns ∧ opened.nicknames? ns = host.nicknames? ns) := by
  intro opened exposure
  have hopens : Opens host opened exposure := opens_ofAliases hhost registry id trigger
  rcases shows_ofAliases hhost registry id trigger with
    ⟨processed, hshows, hall⟩ | ⟨hempty, key, target, hstands, htaken⟩
  · constructor
    · intro _
      refine ⟨?_, ?_, hopens.name?_eq, ?_⟩
      · intro key target hstands
        exact (hshows.find?_iff _ target).2 (Or.inr ⟨key, hall key target hstands, hstands, rfl⟩)
      · intro name hother
        apply Option.ext
        intro owner
        rw [show opened.find? (.named name) = some owner ↔ _ from hshows.find?_iff name owner]
        refine or_iff_left ?_
        rintro ⟨key, -, hstands, hname⟩
        exact hother key owner hstands hname
      · rw [← hshows.encard]
        congr 1
        ext key
        exact ⟨fun ⟨target, hstands⟩ => ⟨hall key target hstands, target, hstands⟩, And.right⟩
    · rintro ⟨key, target, hstands, htaken⟩
      exact absurd (hshows.free key (hall key target hstands) target hstands) htaken
  · constructor
    · intro hfree
      exact absurd (hfree key target hstands) htaken
    · intro _
      have hexposure : exposure = empty := hempty
      rw [hexposure] at hopens ⊢
      refine ⟨rfl, hopens.find?_of_empty hhost, fun ns => ⟨hopens.name?_eq ns, ?_⟩⟩
      rw [SymbolTable.nicknames?_eq_naming?, SymbolTable.nicknames?_eq_naming?,
        hopens.naming?_of_none rfl]

/-! ## An alias of an alias -/

/-- A user namespace and a library. -/
def chainedHost : SymbolTable := SymbolTable.empty.performAll [.create "USER", .create "LIB"]

/-- An alias of the library, and one whose designator spells the nickname of the first. -/
def chainedRegistry : AliasRegistry :=
  AliasRegistry.empty.set ⟨0⟩ [(.named "LIB", "A"), (.named "$A", "B")]

/-- The designators of the two aliases. -/
theorem chainedRegistry_find? {key : String} {designator : Designator}
    (h : (chainedRegistry.table? ⟨0⟩).bind (·.find? key) = some designator) :
    (key = "A" ∧ designator = .named "LIB") ∨ (key = "B" ∧ designator = .named "$A") := by
  have hlookup : (chainedRegistry.table? ⟨0⟩).bind (·.find? key) =
      Dictionary.lookup key [("A", .named "LIB"), ("B", .named "$A")] := rfl
  simp only [hlookup, Dictionary.lookup, eq_comm (b := key)] at h
  split at h
  next hkey => exact Or.inl ⟨hkey, (Option.some.inj h).symm⟩
  next =>
    split at h
    next hkey => exact Or.inr ⟨hkey, (Option.some.inj h).symm⟩
    next => cases h

/-- The second alias is exposed through the first one. -/
theorem ofAliases_exposes_chained :
    chainedHost.Reachable ∧ StandsFor chainedHost chainedRegistry ⟨0⟩ '$' "B" ⟨1⟩ ∧
      (ofAliases chainedHost chainedRegistry ⟨0⟩ '$').1.find? (.named "$B") = some ⟨1⟩ := by
  have hhost : chainedHost.Reachable := SymbolTable.Reachable.empty.performAll _
  have hfirst : StandsFor chainedHost chainedRegistry ⟨0⟩ '$' "A" ⟨1⟩ := .resolved (by decide)
  have hstands : StandsFor chainedHost chainedRegistry ⟨0⟩ '$' "B" ⟨1⟩ :=
    .chained rfl (by decide) (by decide) hfirst
  obtain ⟨hshown, -⟩ := ofAliases_exposes hhost chainedRegistry ⟨0⟩ '$'
  refine ⟨hhost, hstands, (hshown ?_).1 "B" ⟨1⟩ hstands⟩
  -- no namespace has one of the two nicknames
  intro key target hkey owner howner
  obtain ⟨designator, hdesignator⟩ := hkey.exists_designator
  rcases chainedRegistry_find? hdesignator with ⟨rfl, -⟩ | ⟨rfl, -⟩
  · have hnone : chainedHost.find? (.named (nickname '$' "A")) = none := by decide
    rw [hnone] at howner
    cases howner
  · have hnone : chainedHost.find? (.named (nickname '$' "B")) = none := by decide
    rw [hnone] at howner
    cases howner

/-- More than the aliases that can be resolved is exposed: the second alias cannot be resolved,
and its nickname means the library all the same. -/
theorem ofAliases_exposes_unresolved :
    chainedHost.Reachable ∧
    (∀ key target, chainedRegistry.resolve chainedHost ⟨0⟩ key = .ok target →
      chainedHost.Free target (nickname '$' key)) ∧
    (∀ key target, chainedRegistry.resolve chainedHost ⟨0⟩ key = .ok target →
      "$B" ≠ nickname '$' key) ∧
    (ofAliases chainedHost chainedRegistry ⟨0⟩ '$').1.find? (.named "$B") ≠
      chainedHost.find? (.named "$B") ∧
    {key | ∃ target, chainedRegistry.resolve chainedHost ⟨0⟩ key = .ok target}.encard ≠
      (ofAliases chainedHost chainedRegistry ⟨0⟩ '$').2.size := by
  have hresolved : ∀ key target, chainedRegistry.resolve chainedHost ⟨0⟩ key = .ok target →
      key = "A" := by
    intro key target hresolve
    obtain ⟨designator, hkey, hfind⟩ := AliasRegistry.resolve_eq_ok_iff.1 hresolve
    rcases chainedRegistry_find? hkey with ⟨rfl, -⟩ | ⟨-, rfl⟩
    · rfl
    · have hnone : chainedHost.find? (.named "$A") = none := by decide
      rw [hnone] at hfind
      cases hfind
  refine ⟨SymbolTable.Reachable.empty.performAll _, ?_, ?_, by decide, ?_⟩
  · intro key target hresolve owner howner
    obtain rfl := hresolved key target hresolve
    have hnone : chainedHost.find? (.named (nickname '$' "A")) = none := by decide
    rw [hnone] at howner
    cases howner
  · intro key target hresolve
    obtain rfl := hresolved key target hresolve
    decide
  · -- one alias can be resolved, and two are exposed
    have hone : {key | ∃ target, chainedRegistry.resolve chainedHost ⟨0⟩ key = .ok target}.encard
        ≤ 1 := by
      refine Set.encard_le_one_iff.2 ?_
      rintro key other ⟨target, hkey⟩ ⟨target', hother⟩
      rw [hresolved key target hkey, hresolved other target' hother]
    have hsize : (ofAliases chainedHost chainedRegistry ⟨0⟩ '$').2.size = 2 := by decide
    intro heq
    rw [heq, hsize] at hone
    exact absurd hone (by decide)

end Exposure

end AliasReader
