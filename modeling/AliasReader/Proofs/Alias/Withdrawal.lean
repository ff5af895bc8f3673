import AliasReader.Alias.Exposure
import AliasReader.Proofs.Namespace.Renaming

/-!
# Exposing and Withdrawing Aliases

Exposing aliases renames namespaces one after the other, and a namespace may be renamed several
times. Every renaming leaves a record of what the namespace was called before it. Withdrawing
reads the records backwards, so the oldest record of a namespace decides what it is called in the
end. No record holds a name that another namespace had at the start; hence giving one namespace
its names back never stands in the way of another one.

## Main definitions

* `Exposure.original?`: the oldest record of a namespace;
* `Exposure.Recalls`: records that belong to a symbol table;
* `Exposure.Opens`: what exposing aliases leaves of a symbol table.

## Main results

* `Exposure.naming?_withdraw_of_none` and `Exposure.Recalls.naming?_withdraw`: what namespaces are
  called after a withdrawal;
* `Exposure.opens_ofAliases`: the names after aliases were exposed.
-/

namespace AliasReader

namespace Exposure

/-! ## The oldest record -/

/-- What a namespace was called before it was renamed for the first time. -/
def original? (exposure : Exposure) (id : NamespaceId) : Option (String × List String) :=
  (exposure.earlier.reverse.find? (·.1 = id)).map Prod.snd

/-- An older record goes before a newer one. -/
theorem original?_cons (saved : NamespaceId × String × List String)
    (rest : List (NamespaceId × String × List String)) (id : NamespaceId) :
    original? ⟨saved :: rest⟩ id =
      (original? ⟨rest⟩ id).or (if saved.1 = id then some saved.2 else none) := by
  rw [original?, original?, List.reverse_cons, List.find?_append, Option.map_or]
  congr 1
  by_cases h : saved.1 = id <;> simp [h]

/-! ## Withdrawing -/

/-- Withdrawing gives names back, and does nothing else. -/
theorem reachable_withdraw (exposure : Exposure) {host : SymbolTable} (h : host.Reachable) :
    (exposure.withdraw host).Reachable := by
  obtain ⟨earlier⟩ := exposure
  induction earlier generalizing host with
  | nil => exact h
  | cons saved rest ih => exact ih (h.perform (.rename saved.1 saved.2.1 saved.2.2))

theorem length_withdraw (exposure : Exposure) (host : SymbolTable) :
    (exposure.withdraw host).namespaces.length = host.namespaces.length := by
  obtain ⟨earlier⟩ := exposure
  induction earlier generalizing host with
  | nil => rfl
  | cons saved rest ih => exact (ih _).trans SymbolTable.length_rename

/-- A namespace without a record keeps its names. -/
theorem naming?_withdraw_of_none {exposure : Exposure} {id : NamespaceId}
    (h : exposure.original? id = none) (host : SymbolTable) :
    (exposure.withdraw host).naming? id = host.naming? id := by
  obtain ⟨earlier⟩ := exposure
  induction earlier generalizing host with
  | nil => rfl
  | cons saved rest ih =>
    rw [original?_cons, Option.or_eq_none_iff] at h
    have hne : id ≠ saved.1 := by
      rintro rfl
      simp at h
    exact (ih _ h.1).trans (SymbolTable.naming?_rename_of_ne hne)

/-- No other namespace goes by a name from the list. -/
def Unclaimed (host : SymbolTable) (id : NamespaceId) (names : List String) : Prop :=
  ∀ other name, other ≠ id → host.GoesBy other name → name ∉ names

/-- The oldest record decides what a namespace is called after a withdrawal, when no other
namespace has its names and no record would give them to another one. -/
theorem naming?_withdraw_of_some {exposure : Exposure} {id : NamespaceId} {name : String}
    {nicknames : List String} (h : exposure.original? id = some (name, nicknames))
    (hforeign : ∀ saved ∈ exposure.earlier, saved.1 ≠ id →
      ∀ text ∈ saved.2.1 :: saved.2.2, text ∉ name :: nicknames)
    {host : SymbolTable} (hhost : host.WellFormed) (hid : host.hasNamespace id = true)
    (hunclaimed : Unclaimed host id (name :: nicknames)) :
    (exposure.withdraw host).naming? id = some (name, nicknames) := by
  obtain ⟨earlier⟩ := exposure
  -- by induction on the records, the newest one first
  induction earlier generalizing host with
  | nil => simp [original?] at h
  | cons saved rest ih =>
    have hstep : withdraw ⟨saved :: rest⟩ host =
        withdraw ⟨rest⟩ (host.rename saved.1 saved.2.1 saved.2.2).2 := rfl
    rw [hstep]
    rw [original?_cons] at h
    cases hrest : original? ⟨rest⟩ id with
    | some older =>
      -- the record at hand is not the oldest one, and gives no name of the oldest one away
      rw [hrest, Option.some_or] at h
      refine ih (hhost.rename _ _ _) ?_ ?_ (hrest.trans h)
        (fun other hother => hforeign other (List.mem_cons_of_mem _ hother))
      · exact SymbolTable.hasNamespace_of_length_le (Nat.le_of_eq SymbolTable.length_rename.symm)
          hid
      · intro other text hother hgoes
        rcases hgoes.of_rename with hbefore | ⟨rfl, hgiven⟩
        · exact hunclaimed other text hother hbefore
        · exact hforeign saved List.mem_cons_self hother text hgiven
    | none =>
      -- the record at hand is the oldest one, and later renamings leave the namespace
      rw [hrest, Option.none_or, Option.ite_none_right_eq_some, Option.some.injEq] at h
      obtain ⟨rfl, hsaved⟩ := h
      have hfree : ∀ given ∈ saved.2.1 :: saved.2.2, host.Free saved.1 given := by
        intro given hgiven owner howner
        by_contra hother
        rw [hsaved] at hgiven
        exact hunclaimed owner given hother ((hhost.index_iff given owner).1 howner) hgiven
      rw [naming?_withdraw_of_none hrest, (SymbolTable.naming?_rename_self hid hfree).2, hsaved]

/-- The records tell what namespaces of a symbol table are called in it, and hold no name of
another namespace of it. -/
structure Recalls (exposure : Exposure) (host : SymbolTable) : Prop where
  /-- The oldest record of a namespace tells its names. -/
  original : ∀ id naming, exposure.original? id = some naming → host.naming? id = some naming
  /-- The names in a record belong to no other namespace. -/
  foreign : ∀ saved ∈ exposure.earlier, ∀ text ∈ saved.2.1 :: saved.2.2,
    ∀ owner, host.GoesBy owner text → owner = saved.1

theorem recalls_empty (host : SymbolTable) : empty.Recalls host :=
  ⟨fun _ _ h => by simp [original?, empty] at h, fun _ h => by simp [empty] at h⟩

/-- After a withdrawal a renamed namespace has its names from the start, unless another namespace
had one of them when the withdrawal began. -/
theorem Recalls.naming?_withdraw {exposure : Exposure} {host left : SymbolTable}
    (h : exposure.Recalls host) (hleft : left.WellFormed) {id : NamespaceId}
    (hid : left.hasNamespace id = true) (hrenamed : exposure.original? id ≠ none)
    (hunclaimed : ∀ other name, other ≠ id → left.GoesBy other name → ¬ host.GoesBy id name) :
    (exposure.withdraw left).naming? id = host.naming? id := by
  obtain ⟨⟨name, nicknames⟩, horiginal⟩ := Option.ne_none_iff_exists'.1 hrenamed
  have hnaming := h.original id _ horiginal
  -- the names of the oldest record are the names from the start
  have hgoes : ∀ text ∈ name :: nicknames, host.GoesBy id text := fun text htext =>
    SymbolTable.goesBy_iff_naming?.2 ⟨_, hnaming, htext⟩
  rw [hnaming]
  refine naming?_withdraw_of_some horiginal ?_ hleft hid ?_
  · intro saved hsaved hne text htext hname
    exact hne (h.foreign saved hsaved text htext id (hgoes text hname)).symm
  · intro other text hother hbefore htext
    exact hunclaimed other text hother hbefore (hgoes text htext)

/-! ## Exposing one alias -/

section Extend

variable {trigger : Char} {key : String} {designator : Designator}
  {rest : List (String × Designator)} {host : SymbolTable} {exposure : Exposure}

/-- An alias that designates nothing is passed over. -/
theorem extend_of_none (hfind : host.find? designator = none) :
    extend trigger ((key, designator) :: rest) (host, exposure) =
      extend trigger rest (host, exposure) := by
  simp only [extend, hfind]

/-- The names that a namespace has, with one more, are free for it when that one is. -/
theorem free_of_naming? (hhost : host.WellFormed) {target : NamespaceId} {name added : String}
    {nicknames : List String} (hnaming : host.naming? target = some (name, nicknames))
    (hfree : host.Free target added) :
    ∀ given ∈ name :: (nicknames ++ [added]), host.Free target given := by
  intro given hgiven
  rw [← List.cons_append, List.mem_append, List.mem_singleton] at hgiven
  rcases hgiven with hold | rfl
  · -- a name that the namespace has belongs to it
    intro owner howner
    have hgoes : host.GoesBy target given :=
      SymbolTable.goesBy_iff_naming?.2 ⟨_, hnaming, hold⟩
    exact hhost.goesBy_unique ((hhost.index_iff given owner).1 howner) hgoes
  · exact hfree

/-- A designated namespace is called something. -/
theorem exists_naming? (hhost : host.WellFormed) {target : NamespaceId}
    (hfind : host.find? designator = some target) :
    ∃ name nicknames, host.naming? target = some (name, nicknames) := by
  obtain ⟨⟨name, nicknames⟩, hnaming⟩ :=
    SymbolTable.hasNamespace_iff_naming?.1 (hhost.hasNamespace_of_find? hfind)
  exact ⟨name, nicknames, hnaming⟩

/-- An alias whose nickname is free for the designated namespace becomes its last nickname. -/
theorem extend_of_free (hhost : host.WellFormed) {target : NamespaceId} {name : String}
    {nicknames : List String} (hfind : host.find? designator = some target)
    (hnaming : host.naming? target = some (name, nicknames))
    (hfree : host.Free target (nickname trigger key)) :
    extend trigger ((key, designator) :: rest) (host, exposure) =
      extend trigger rest
        ((host.rename target name (nicknames ++ [nickname trigger key])).2,
          ⟨(target, name, nicknames) :: exposure.earlier⟩) := by
  obtain ⟨entry, hentry, hnames⟩ := Option.map_eq_some_iff.1 hnaming
  obtain ⟨rfl, rfl⟩ := Prod.mk.inj hnames
  have hid : host.hasNamespace target = true := (host.hasNamespace_iff target).2 ⟨entry, hentry⟩
  have hrename := (SymbolTable.naming?_rename_self hid (free_of_naming? hhost hnaming hfree)).1
  simp only [extend, hfind, hentry]
  rw [hrename]

/-- At an alias whose nickname belongs to another namespace everything is taken back. -/
theorem extend_of_not_free {target : NamespaceId} {name : String} {nicknames : List String}
    (hfind : host.find? designator = some target)
    (hnaming : host.naming? target = some (name, nicknames))
    (htaken : ¬ host.Free target (nickname trigger key)) :
    extend trigger ((key, designator) :: rest) (host, exposure) =
      (exposure.withdraw (host.rename target name (nicknames ++ [nickname trigger key])).2,
        empty) := by
  obtain ⟨entry, hentry, hnames⟩ := Option.map_eq_some_iff.1 hnaming
  obtain ⟨rfl, rfl⟩ := Prod.mk.inj hnames
  obtain ⟨failure, hrename⟩ := @SymbolTable.rename_of_not_free host target entry.name
    (entry.nicknames ++ [nickname trigger key]) _ (by simp) htaken
  simp only [extend, hfind, hentry]
  rw [hrename]

end Extend

/-! ## What exposing aliases leaves -/

/-- What exposing aliases leaves of a symbol table: the namespaces have further nicknames behind
the ones that they had, and the exposure has a record of each namespace that was renamed. -/
structure Opens (host opened : SymbolTable) (exposure : Exposure) : Prop where
  /-- The names were changed by requests. -/
  reachable : opened.Reachable
  /-- The namespaces are the same ones. -/
  length : opened.namespaces.length = host.namespaces.length
  /-- Exactly the renamed namespaces have further nicknames. -/
  naming : ∀ id name nicknames, host.naming? id = some (name, nicknames) →
    ∃ added, opened.naming? id = some (name, nicknames ++ added) ∧
      (added = [] ↔ exposure.original? id = none)
  /-- The records are about the symbol table from before. -/
  recalls : exposure.Recalls host

theorem opens_empty {host : SymbolTable} (h : host.Reachable) : Opens host host empty :=
  ⟨h, rfl, fun _ name nicknames hnaming => ⟨[], by simpa using hnaming, by simp [original?, empty]⟩,
    recalls_empty host⟩

section Opens

variable {host opened : SymbolTable} {exposure : Exposure} (h : Opens host opened exposure)

include h

theorem Opens.hasNamespace_eq (id : NamespaceId) :
    opened.hasNamespace id = host.hasNamespace id := by
  rw [SymbolTable.hasNamespace, SymbolTable.hasNamespace, h.length]

/-- Every namespace goes by the names that it had. -/
theorem Opens.goesBy {id : NamespaceId} {name : String} (hgoes : host.GoesBy id name) :
    opened.GoesBy id name := by
  obtain ⟨⟨primary, nicknames⟩, hnaming, hmem⟩ := SymbolTable.goesBy_iff_naming?.1 hgoes
  obtain ⟨added, hopened, -⟩ := h.naming id primary nicknames hnaming
  refine SymbolTable.goesBy_iff_naming?.2 ⟨_, hopened, ?_⟩
  rw [← List.cons_append]
  exact List.mem_append_left _ hmem

/-- A namespace without a record is called what it was called. -/
theorem Opens.naming?_of_none {id : NamespaceId} (hnone : exposure.original? id = none) :
    opened.naming? id = host.naming? id := by
  cases hnaming : host.naming? id with
  | some naming =>
    obtain ⟨added, hopened, hadded⟩ := h.naming id naming.1 naming.2 hnaming
    rw [hopened, hadded.2 hnone, List.append_nil]
  | none =>
    -- a handle that named nothing names nothing
    cases hopened : opened.naming? id with
    | none => rfl
    | some naming =>
      have hid := SymbolTable.hasNamespace_iff_naming?.2 ⟨naming, hopened⟩
      rw [h.hasNamespace_eq, SymbolTable.hasNamespace_iff_naming?, hnaming] at hid
      obtain ⟨_, hsome⟩ := hid
      cases hsome

/-- A namespace has a record exactly when it is called something else than before. -/
theorem Opens.naming?_ne_iff (id : NamespaceId) :
    opened.naming? id ≠ host.naming? id ↔ exposure.original? id ≠ none := by
  constructor
  · intro hne hnone
    exact hne (h.naming?_of_none hnone)
  · intro hrecord heq
    obtain ⟨naming, horiginal⟩ := Option.ne_none_iff_exists'.1 hrecord
    have hnaming := h.recalls.original id naming horiginal
    obtain ⟨added, hopened, hadded⟩ := h.naming id naming.1 naming.2 hnaming
    -- the added nicknames would have to be none at all
    rw [hnaming, hopened] at heq
    have hnicknames : naming.2 ++ added = naming.2 := (Prod.mk.inj (Option.some.inj heq)).2
    exact hrecord (hadded.1 (by simpa using hnicknames))

/-- Withdrawing from a later symbol table gives the renamed namespaces their names back, unless
another namespace has one of them by then, and leaves the other namespaces. -/
theorem Opens.naming?_withdraw {left : SymbolTable} (hleft : left.WellFormed)
    (hlength : opened.namespaces.length ≤ left.namespaces.length) (id : NamespaceId)
    (hunclaimed : exposure.original? id ≠ none → ∀ other name, other ≠ id →
      left.GoesBy other name → ¬ host.GoesBy id name) :
    (exposure.withdraw left).naming? id =
      if exposure.original? id = none then left.naming? id else host.naming? id := by
  split
  next hnone => exact naming?_withdraw_of_none hnone left
  next hrecord =>
    obtain ⟨naming, horiginal⟩ := Option.ne_none_iff_exists'.1 hrecord
    have hid : host.hasNamespace id = true :=
      SymbolTable.hasNamespace_iff_naming?.2 ⟨naming, h.recalls.original id naming horiginal⟩
    rw [← h.hasNamespace_eq] at hid
    exact h.recalls.naming?_withdraw hleft (SymbolTable.hasNamespace_of_length_le hlength hid)
      hrecord (hunclaimed hrecord)

/-- Withdrawing from a symbol table in which every namespace has the names that it was opened with
leads back to the start. -/
theorem Opens.naming?_withdraw_of_naming? {left : SymbolTable} (hleft : left.WellFormed)
    (hlength : opened.namespaces.length ≤ left.namespaces.length)
    (hsame : ∀ id, opened.hasNamespace id = true → left.naming? id = opened.naming? id)
    {id : NamespaceId} (hid : host.hasNamespace id = true) :
    (exposure.withdraw left).naming? id = host.naming? id := by
  rw [← h.hasNamespace_eq] at hid
  rw [h.naming?_withdraw hleft hlength id]
  · split
    next hnone => rw [hsame id hid, h.naming?_of_none hnone]
    next => rfl
  · -- the namespace itself still has its names, so no other one can
    intro _ other name hother hgoes horiginal
    obtain ⟨naming, hnaming, hmem⟩ := SymbolTable.goesBy_iff_naming?.1 (h.goesBy horiginal)
    have hself : left.GoesBy id name :=
      SymbolTable.goesBy_iff_naming?.2 ⟨naming, (hsame id hid).trans hnaming, hmem⟩
    exact hother (hleft.goesBy_unique hgoes hself)

/-- Exposing one more alias. -/
theorem Opens.rename {target : NamespaceId} {name added : String} {nicknames : List String}
    (hnaming : opened.naming? target = some (name, nicknames))
    (hfree : opened.Free target added) :
    Opens host (opened.rename target name (nicknames ++ [added])).2
      ⟨(target, name, nicknames) :: exposure.earlier⟩ := by
  have hopened := h.reachable.wellFormed
  have hid : opened.hasNamespace target = true :=
    SymbolTable.hasNamespace_iff_naming?.2 ⟨_, hnaming⟩
  have hrenamed := (SymbolTable.naming?_rename_self hid (free_of_naming? hopened hnaming hfree)).2
  refine ⟨h.reachable.perform (.rename target name (nicknames ++ [added])),
    SymbolTable.length_rename.trans h.length, ?_, ?_, ?_⟩
  · intro id primary others hhost
    obtain ⟨further, hfurther, hnone⟩ := h.naming id primary others hhost
    rw [original?_cons]
    by_cases hsame : id = target
    · -- the renamed namespace has one more nickname
      subst hsame
      rw [hfurther] at hnaming
      obtain ⟨rfl, rfl⟩ := Prod.mk.inj (Option.some.inj hnaming)
      refine ⟨further ++ [added], by rw [hrenamed, List.append_assoc], ?_⟩
      simp
    · refine ⟨further, (SymbolTable.naming?_rename_of_ne hsame).trans hfurther, ?_⟩
      rw [if_neg (Ne.symm hsame), Option.or_none]
      exact hnone
  · intro id naming horiginal
    rw [original?_cons] at horiginal
    cases hrecord : exposure.original? id with
    | some older =>
      rw [hrecord, Option.some_or] at horiginal
      exact h.recalls.original id naming (hrecord.trans horiginal)
    | none =>
      -- the new record is the first one of the namespace, which is called what it was called
      rw [hrecord, Option.none_or, Option.ite_none_right_eq_some, Option.some.injEq] at horiginal
      obtain ⟨rfl, rfl⟩ := horiginal
      rw [← h.naming?_of_none hrecord]
      exact hnaming
  · intro saved hsaved text htext owner howner
    rcases List.mem_cons.1 hsaved with rfl | hsaved
    · -- the names in the new record belong to the renamed namespace
      have hgoes : opened.GoesBy target text :=
        SymbolTable.goesBy_iff_naming?.2 ⟨_, hnaming, htext⟩
      exact hopened.goesBy_unique (h.goesBy howner) hgoes
    · exact h.recalls.foreign saved hsaved text htext owner howner

/-- Taking everything back leaves what exposing nothing leaves. -/
theorem Opens.withdraw {left : SymbolTable} (hleft : left.Reachable)
    (hlength : left.namespaces.length = opened.namespaces.length)
    (hsame : ∀ id, left.naming? id = opened.naming? id) :
    Opens host (exposure.withdraw left) empty := by
  refine ⟨reachable_withdraw exposure hleft, ?_, ?_, recalls_empty host⟩
  · rw [length_withdraw, hlength, h.length]
  · intro id name nicknames hnaming
    have hid : host.hasNamespace id = true := SymbolTable.hasNamespace_iff_naming?.2 ⟨_, hnaming⟩
    refine ⟨[], ?_, by simp [original?, empty]⟩
    rw [h.naming?_withdraw_of_naming? hleft.wellFormed (Nat.le_of_eq hlength.symm)
      (fun other _ => hsame other) hid, hnaming, List.append_nil]

/-- Exposing further aliases. -/
theorem Opens.extend (trigger : Char) (entries : List (String × Designator)) :
    Opens host (Exposure.extend trigger entries (opened, exposure)).1
      (Exposure.extend trigger entries (opened, exposure)).2 := by
  induction entries generalizing opened exposure with
  | nil => exact h
  | cons entry rest ih =>
    obtain ⟨key, designator⟩ := entry
    have hopened := h.reachable.wellFormed
    cases hfind : opened.find? designator with
    | none =>
      rw [extend_of_none hfind]
      exact ih h
    | some target =>
      obtain ⟨name, nicknames, hnaming⟩ := exists_naming? hopened hfind
      by_cases hfree : opened.Free target (nickname trigger key)
      · rw [extend_of_free hopened hfind hnaming hfree]
        exact ih (h.rename hnaming hfree)
      · rw [extend_of_not_free hfind hnaming hfree]
        refine h.withdraw (h.reachable.perform (.rename _ _ _)) SymbolTable.length_rename ?_
        exact fun id => SymbolTable.naming?_rename_of_not_free (by simp) hfree

end Opens

/-- What exposing the aliases of a namespace leaves. -/
theorem opens_ofAliases {host : SymbolTable} (h : host.Reachable) (registry : AliasRegistry)
    (id : NamespaceId) (trigger : Char) :
    Opens host (ofAliases host registry id trigger).1 (ofAliases host registry id trigger).2 := by
  unfold ofAliases
  cases registry.table? id with
  | none => exact opens_empty h
  | some table => exact (opens_empty h).extend trigger table.entries

end Exposure

end AliasReader
