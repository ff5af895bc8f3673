import AliasReader.Proofs.Alias.Withdrawal
import AliasReader.Reader.Form

/-!
# Bodies Under Exposed Aliases

While aliases are exposed, a body may change the symbol table and the registries in any way,
expose aliases again, and break off at any point. Whatever it does, the names that the exposure
changed are given back when the body is left.

## Main definitions

* `Action`: what a body may do;
* `Action.perform` and `Action.performAll`: what it leaves, and whether it breaks off.

## Main results

* `Action.naming?_performAll`: a body that renames nothing itself leaves what namespaces are
  called;
* `SymbolTable.withExposed_restores`: the names after a body under exposed aliases.
-/

namespace AliasReader

/-- How a body is left. -/
inductive Departure where
  /-- The body came to its end. -/
  | returned
  /-- The body broke off. -/
  | brokenOff
deriving DecidableEq, Repr

/-- What a body may do while aliases are exposed. -/
inductive Action where
  /-- Make a request to the symbol table. -/
  | request (asked : SymbolTable.Request)
  /-- Replace the aliases of a namespace in a registry, as they are. -/
  | setAliases (store : StoreId) (id : NamespaceId) (pairs : List (Designator × String))
  /-- Replace the aliases of a namespace in a registry, folded. -/
  | register (store : StoreId) (id : NamespaceId) (pairs : List (Designator × String))
    (policy : CasePolicy)
  /-- Expose the aliases of a namespace around a further body. -/
  | expose (store : StoreId) (id : NamespaceId) (trigger : Char) (body : List Action)
  /-- Go on after a further body even if that breaks off. -/
  | attempt (body : List Action)
  /-- Break off. -/
  | breakOff

namespace Action

/-- The registries with one of them replaced. -/
def replaceStore (stores : Stores) (store : StoreId) (registry : AliasRegistry) : Stores :=
  fun other => if other = store then registry else stores other

/-- The registries after folded aliases were given, which leave them as they are when they cannot
be folded. -/
def registerIn (store : StoreId) (id : NamespaceId) (pairs : List (Designator × String))
    (policy : CasePolicy) (stores : Stores) : Stores :=
  match (stores store).register id pairs policy with
  | .ok registry => replaceStore stores store registry
  | .error _ => stores

/-- A request without an answer breaks the body off. -/
def departure (host : SymbolTable) : SymbolTable.Request → Departure
  | .create _ => .returned
  | .intern id name => if (host.intern id name).1.isSome then .returned else .brokenOff
  | .internExternal id name =>
      if (host.internExternal id name).1.isSome then .returned else .brokenOff
  | .rename id name nicknames =>
      if (host.rename id name nicknames).1.isSome then .returned else .brokenOff

mutual

/-- Do something. -/
def perform : Action → SymbolTable → StateM Stores (Departure × SymbolTable)
  | .request asked, host => return (departure host asked, host.perform asked)
  | .setAliases store id pairs, host => do
      modify fun stores => replaceStore stores store ((stores store).set id pairs)
      return (.returned, host)
  | .register store id pairs policy, host => do
      modify (registerIn store id pairs policy)
      return (.returned, host)
  | .expose store id trigger body, host => do
      host.withExposed ((← get) store) id trigger (performAll body)
  | .attempt body, host => do
      let (_, host) ← performAll body host
      return (.returned, host)
  | .breakOff, host => return (.brokenOff, host)

/-- Do one thing after the other until the body breaks off. -/
def performAll : List Action → SymbolTable → StateM Stores (Departure × SymbolTable)
  | [], host => return (.returned, host)
  | action :: rest, host => do
      match ← perform action host with
      | (.returned, host) => performAll rest host
      | (.brokenOff, host) => return (.brokenOff, host)

end

mutual

/-- Whether an action makes a renaming, itself or in a further body. -/
def renames : Action → Bool
  | .request asked => asked.renames
  | .expose _ _ _ body => anyRenames body
  | .attempt body => anyRenames body
  | _ => false

/-- Whether one of the actions makes a renaming. -/
def anyRenames : List Action → Bool
  | [] => false
  | action :: rest => action.renames || anyRenames rest

end

/-! ## What a body leaves -/

/-- A step of a body leaves a reachable table with no namespace fewer. One that renames nothing
leaves what the namespaces are called. -/
structure Leaves (renames : Bool) (before after : SymbolTable) : Prop where
  /-- The table was changed by requests. -/
  reachable : after.Reachable
  /-- No namespace is gone. -/
  length : before.namespaces.length ≤ after.namespaces.length
  /-- Without a renaming the names stay. -/
  naming : renames = false → ∀ id, before.hasNamespace id = true →
    after.naming? id = before.naming? id

theorem Leaves.refl (renames : Bool) {host : SymbolTable} (h : host.Reachable) :
    Leaves renames host host :=
  ⟨h, Nat.le_refl _, fun _ _ _ => rfl⟩

/-- Steps that follow each other, of which either may rename. -/
theorem Leaves.trans {renames renames' : Bool} {first second third : SymbolTable}
    (h : Leaves renames first second) (h' : Leaves renames' second third) :
    Leaves (renames || renames') first third := by
  refine ⟨h'.reachable, Nat.le_trans h.length h'.length, ?_⟩
  intro hnone id hid
  rw [Bool.or_eq_false_iff] at hnone
  have hsecond := SymbolTable.hasNamespace_of_length_le h.length hid
  rw [h'.naming hnone.2 id hsecond, h.naming hnone.1 id hid]

theorem leaves_request {host : SymbolTable} (h : host.Reachable) (asked : SymbolTable.Request) :
    Leaves asked.renames host (host.perform asked) :=
  ⟨h.perform asked, SymbolTable.length_le_perform asked,
    fun hnone _ hid => SymbolTable.naming?_perform hnone hid⟩

/-- What a body leaves is left after its aliases were withdrawn. -/
theorem Leaves.withdraw {renames : Bool} {host opened left : SymbolTable} {exposure : Exposure}
    (hopens : exposure.Opens host opened) (h : Leaves renames opened left) :
    Leaves renames host (exposure.withdraw left) := by
  refine ⟨exposure.reachable_withdraw h.reachable, ?_, ?_⟩
  · rw [exposure.length_withdraw, ← hopens.length]
    exact h.length
  · intro hnone id hid
    exact hopens.naming?_withdraw_of_naming? h.reachable.wellFormed h.length (h.naming hnone) hid

theorem performAll_cons (action : Action) (rest : List Action) (host : SymbolTable)
    (stores : Stores) :
    performAll (action :: rest) host stores =
      match action.perform host stores with
      | ((.returned, host), stores) => performAll rest host stores
      | ((.brokenOff, host), stores) => ((.brokenOff, host), stores) := by
  rw [performAll]
  simp only [bind, StateT.bind]
  rcases action.perform host stores with ⟨⟨_ | _, _⟩, _⟩ <;> rfl

mutual

/-- An action leaves a reachable table, and the names unless it makes a renaming. -/
theorem leaves_perform {host : SymbolTable} (h : host.Reachable) (stores : Stores) :
    ∀ action : Action, Leaves action.renames host (action.perform host stores).1.2
  | .request asked => leaves_request h asked
  | .setAliases _ _ _ => .refl _ h
  | .register _ _ _ _ => .refl _ h
  | .expose store id trigger body => by
    -- the body starts from the opened table and is followed by the withdrawal
    have hopens := Exposure.opens_ofAliases h (stores store) id trigger
    exact (leaves_performAll hopens.reachable stores body).withdraw hopens
  | .attempt body => leaves_performAll h stores body
  | .breakOff => .refl _ h

theorem leaves_performAll {host : SymbolTable} (h : host.Reachable) (stores : Stores) :
    ∀ body : List Action, Leaves (anyRenames body) host (performAll body host stores).1.2
  | [] => .refl _ h
  | action :: rest => by
    have hfirst := leaves_perform h stores action
    rw [performAll_cons, anyRenames]
    rcases hperform : action.perform host stores with ⟨⟨departure, middle⟩, left⟩
    rw [hperform] at hfirst
    cases departure with
    | returned => exact hfirst.trans (leaves_performAll hfirst.reachable left rest)
    | brokenOff => exact hfirst.trans (.refl _ hfirst.reachable)

end

end Action

namespace SymbolTable

/-- After a body under exposed aliases, whether it came to its end or broke off, the namespaces
that were not renamed have the names that the body left, and a renamed one has exactly the names
from before, unless another namespace had one of them when the body was left. The index agrees
with the names. When the body renames nothing itself, every namespace from before has its names
again, and every name means what it meant, unless it means a namespace that the body made. -/
theorem withExposed_restores {host : SymbolTable} (hhost : host.Reachable) (stores : Stores)
    (store : StoreId) (id : NamespaceId) (trigger : Char) (body : List Action) :
    let opened := (Exposure.ofAliases host (stores store) id trigger).1
    let left := (Action.performAll body opened stores).1.2
    let run := (host.withExposed (stores store) id trigger (Action.performAll body)).run stores
    let after := run.1.2
    let Renamed (ns : NamespaceId) : Prop := opened.naming? ns ≠ host.naming? ns
    run.1.1 = (Action.performAll body opened stores).1.1 ∧
    (∀ ns, ¬ Renamed ns → after.naming? ns = left.naming? ns) ∧
    (∀ ns, Renamed ns →
      (∀ other name, other ≠ ns → left.GoesBy other name → ¬ host.GoesBy ns name) →
      after.naming? ns = host.naming? ns) ∧
    (∀ name ns, after.find? (.named name) = some ns ↔ after.GoesBy ns name) ∧
    (Action.anyRenames body = false →
      (∀ ns, host.hasNamespace ns = true → after.naming? ns = host.naming? ns) ∧
      ∀ name, (∀ ns, after.find? (.named name) = some ns → host.hasNamespace ns = true) →
        after.find? (.named name) = host.find? (.named name)) := by
  intro opened left run after Renamed
  have hopens := Exposure.opens_ofAliases hhost (stores store) id trigger
  have hbody : Action.Leaves (Action.anyRenames body) opened left :=
    Action.leaves_performAll hopens.reachable stores body
  have hleft := hbody.reachable.wellFormed
  have hreturn : Action.Leaves (Action.anyRenames body) host after := hbody.withdraw hopens
  have hafter : after.WellFormed := hreturn.reachable.wellFormed
  refine ⟨rfl, ?_, ?_, hafter.index_iff, ?_⟩
  · intro ns hrenamed
    have hnone := not_not.1 (mt (hopens.naming?_ne_iff ns).2 hrenamed)
    exact Exposure.naming?_withdraw_of_none hnone left
  · intro ns hrenamed hunclaimed
    have hrecord := (hopens.naming?_ne_iff ns).1 hrenamed
    have hnaming := hopens.naming?_withdraw hleft hbody.length ns fun _ => hunclaimed
    rwa [if_neg hrecord] at hnaming
  · intro hnone
    have hnames := hreturn.naming hnone
    refine ⟨hnames, ?_⟩
    intro name hold
    refine hhost.wellFormed.find?_congr hafter fun ns => ?_
    -- a namespace from before goes by the name after the body as it did before
    have hgoes : host.hasNamespace ns = true → (after.GoesBy ns name ↔ host.GoesBy ns name) := by
      intro hns
      rw [goesBy_iff_naming?, goesBy_iff_naming?, hnames ns hns]
    constructor
    · intro hname
      exact (hgoes (hold ns ((hafter.index_iff name ns).2 hname))).1 hname
    · intro hname
      obtain ⟨naming, hnaming, -⟩ := goesBy_iff_naming?.1 hname
      exact (hgoes (hasNamespace_iff_naming?.2 ⟨naming, hnaming⟩)).2 hname

/-- A user namespace and a library with a nickname. -/
def nicknamedHost : SymbolTable :=
  empty.performAll [.create "USER", .create "LIB", .rename ⟨1⟩ "LIB" ["LIBRARY"]]

/-- Two aliases of the user namespace for the library. -/
def nicknamedStores : Stores := fun _ =>
  AliasRegistry.empty.set ⟨0⟩ [(.named "LIB", "FOO"), (.named "LIBRARY", "L")]

/-- The library has its names again after a body that took them away and broke off. -/
theorem withExposed_restores_brokenOff :
    let body : List Action := [.request (.create "NEW"), .request (.rename ⟨1⟩ "X" []), .breakOff]
    let run := (nicknamedHost.withExposed (nicknamedStores ⟨0⟩) ⟨0⟩ '$'
      (Action.performAll body)).run nicknamedStores
    nicknamedHost.Reachable ∧ run.1.1 = .brokenOff ∧
      run.1.2.naming? ⟨1⟩ = some ("LIB", ["LIBRARY"]) := by
  intro body run
  have hhost : nicknamedHost.Reachable := Reachable.empty.performAll _
  obtain ⟨hdeparture, -, hrestored, -, -⟩ :=
    withExposed_restores hhost nicknamedStores ⟨0⟩ ⟨0⟩ '$' body
  have hopens := Exposure.opens_ofAliases hhost (nicknamedStores ⟨0⟩) ⟨0⟩ '$'
  have hbody := Action.leaves_performAll hopens.reachable nicknamedStores body
  have hleft := hbody.reachable.wellFormed
  refine ⟨hhost, hdeparture.trans (by decide), ?_⟩
  have hnaming : nicknamedHost.naming? ⟨1⟩ = some ("LIB", ["LIBRARY"]) := by decide
  rw [← hnaming]
  refine hrestored ⟨1⟩ (by decide) ?_
  -- the body left the two names of the library unused
  intro other name _ hgoes hname
  have hfind := (hleft.index_iff name other).2 hgoes
  obtain ⟨naming, hlibrary, hmem⟩ := goesBy_iff_naming?.1 hname
  rw [hnaming] at hlibrary
  obtain rfl := Option.some.inj hlibrary
  have hunused : ∀ text ∈ ["LIB", "LIBRARY"], (Action.performAll body (Exposure.ofAliases
      nicknamedHost (nicknamedStores ⟨0⟩) ⟨0⟩ '$').1 nicknamedStores).1.2.index.find? text =
        none := by decide
  rw [hunused name hmem] at hfind
  cases hfind

end SymbolTable

end AliasReader
