import AliasReader.Proofs.Alias.ReferenceGrammar
import AliasReader.Proofs.Alias.Resolution
import AliasReader.Proofs.Text.Folding

/-!
# Registered Aliases

Aliases are folded one by one when they are registered, and a reference is folded as a whole
before it is taken apart. This module shows that both ways lead to the same alias.

## Main results

* `AliasTable.find?_ofPairs`: of several pairs with one alias the last one counts;
* `AliasRegistry.register_eq_ok_iff` and `AliasRegistry.resolve_registered`: what is registered,
  and what the last registration of an alias stands for;
* `Reference.parse?_write`: a written reference is taken apart into its parts;
* `Reference.foldChars_write`: folding a written reference folds its parts.
-/

namespace AliasReader

/-! ## The last registration -/

namespace AliasTable

/-- Putting a designator under an alias changes no other alias. -/
theorem find?_insert (table : AliasTable) (other : String) (designator : Designator)
    (key : String) :
    (table.insert other designator).find? key =
      if key = other then some designator else table.find? key :=
  table.designators.find?_insert other key designator

/-- Pairs that are put into a table one after the other hide what was there. -/
private theorem find?_foldl_insert (table : AliasTable) (pairs : List (Designator × String))
    (key : String) :
    (pairs.foldl (fun table (designator, key) => table.insert key designator) table).find? key =
      ((pairs.reverse.find? (·.2 = key)).map Prod.fst).or (table.find? key) := by
  induction pairs generalizing table with
  | nil => simp
  | cons pair pairs ih =>
    obtain ⟨designator, other⟩ := pair
    -- the pair comes last in the reversed list, so it counts when no later pair does
    rw [List.foldl_cons, ih, find?_insert, List.reverse_cons, List.find?_append, Option.map_or,
      Option.or_assoc]
    by_cases h : key = other
    · simp [h]
    · simp [h, Ne.symm h]

/-- Of several pairs with one alias the last one counts. -/
theorem find?_ofPairs (pairs : List (Designator × String)) (key : String) :
    (ofPairs pairs).find? key = (pairs.reverse.find? (·.2 = key)).map Prod.fst := by
  have hempty : empty.find? key = none := rfl
  rw [ofPairs, find?_foldl_insert, hempty, Option.or_none]

/-- A pair with no other pair of its alias behind it counts. -/
theorem find?_ofPairs_of_last {before after : List (Designator × String)}
    {designator : Designator} {key : String} (hlast : ∀ pair ∈ after, pair.2 ≠ key) :
    (ofPairs (before ++ (designator, key) :: after)).find? key = some designator := by
  -- the pairs behind it are the first ones to be looked through, in vain
  have hafter : after.reverse.find? (·.2 = key) = none := by
    simpa [List.find?_eq_none] using hlast
  rw [find?_ofPairs, List.reverse_append, List.reverse_cons, List.append_assoc,
    List.find?_append, hafter]
  simp

end AliasTable

namespace AliasRegistry

variable {policy : CasePolicy} (hpolicy : policy ≠ .invert)

include hpolicy

/-- Every pair is registered with its alias folded. -/
theorem foldPairs_eq_ok (pairs : List (Designator × String)) :
    foldPairs policy pairs = .ok (pairs.map fun pair => (pair.1, policy.fold pair.2)) := by
  induction pairs with
  | nil => rfl
  | cons pair pairs ih =>
    obtain ⟨designator, key⟩ := pair
    simp only [foldPairs, AliasToken.foldText_of_ne hpolicy, ih, List.map_cons]

/-- Registering aliases succeeds and replaces the aliases of one namespace. -/
theorem register_eq_ok (registry : AliasRegistry) (id : NamespaceId)
    (pairs : List (Designator × String)) :
    registry.register id pairs policy =
      .ok (registry.set id (pairs.map fun pair => (pair.1, policy.fold pair.2))) := by
  rw [register, foldPairs_eq_ok hpolicy]
  rfl

omit hpolicy in
/-- Under the policy `invert` any alias is refused. -/
theorem register_invert (registry : AliasRegistry) (id : NamespaceId)
    {pairs : List (Designator × String)} (hpairs : pairs ≠ []) :
    registry.register id pairs .invert = .error (.unsupportedCase .invert) := by
  obtain ⟨pair, rest, rfl⟩ := List.exists_cons_of_ne_nil hpairs
  rfl

omit hpolicy in
/-- Registering aliases succeeds unless one would have to be folded under the policy `invert`, and
then it replaces the aliases of one namespace. -/
theorem register_eq_ok_iff {registry registered : AliasRegistry} {id : NamespaceId}
    {pairs : List (Designator × String)} :
    registry.register id pairs policy = .ok registered ↔
      (policy = .invert → pairs = []) ∧
        registered = registry.set id (pairs.map fun pair => (pair.1, policy.fold pair.2)) := by
  by_cases hpolicy : policy = .invert
  · subst hpolicy
    by_cases hpairs : pairs = []
    · -- nothing has to be folded
      subst hpairs
      simp [register, foldPairs, Except.map, eq_comm]
    · simp [register_invert registry id hpairs, hpairs]
  · simp [register_eq_ok hpolicy, hpolicy, eq_comm]

omit hpolicy in
/-- An alias that is stored after a replacement is one of the given ones or that of another
namespace. -/
theorem mem_of_holds_set {registry : AliasRegistry} {id other : NamespaceId}
    {pairs : List (Designator × String)} {designator : Designator} {key : String}
    (h : (registry.set id pairs).Holds other key designator) :
    (designator, key) ∈ pairs ∨ registry.Holds other key designator := by
  rw [holds_iff, set, table?_replace] at h
  split at h
  next =>
    rw [Option.bind_some, AliasTable.find?_ofPairs] at h
    obtain ⟨⟨_, _⟩, hpair, rfl⟩ := Option.map_eq_some_iff.1 h
    obtain rfl : _ = key := by simpa using List.find?_some hpair
    exact Or.inl (List.mem_reverse.1 (List.mem_of_find?_eq_some hpair))
  next => exact Or.inr (holds_iff.2 h)

omit hpolicy in
/-- After a registration the folded alias stands for the designator that was given last. -/
theorem resolve_registered (registry : AliasRegistry) {host : SymbolTable} (id : NamespaceId)
    (before : List (Designator × String)) {after : List (Designator × String)}
    {designator : Designator} {key : String} {target : NamespaceId}
    (hlast : ∀ pair ∈ after, policy.fold pair.2 ≠ policy.fold key)
    (htarget : host.find? designator = some target) :
    (registry.set id ((before ++ (designator, key) :: after).map
        fun pair => (pair.1, policy.fold pair.2))).resolve host id (policy.fold key) =
      .ok target := by
  have hfind : (AliasTable.ofPairs ((before ++ (designator, key) :: after).map
      fun pair => (pair.1, policy.fold pair.2))).find? (policy.fold key) = some designator := by
    -- that the pair is the last one is said of folded aliases
    rw [List.map_append, List.map_cons]
    refine AliasTable.find?_ofPairs_of_last ?_
    intro pair hpair
    obtain ⟨given, hgiven, rfl⟩ := List.mem_map.1 hpair
    exact hlast given hgiven
  rw [resolve, set, table?_replace, if_pos rfl, Option.bind_some, hfind]
  simp only [htarget]

omit hpolicy in
/-- A namespace in which an alias stands for something has aliases. -/
theorem hasAliases_of_resolve {registry : AliasRegistry} {host : SymbolTable}
    {id target : NamespaceId} {key : String} (h : registry.resolve host id key = .ok target) :
    registry.hasAliases id = true := by
  obtain ⟨designator, hstored, -⟩ := resolve_eq_ok_iff.1 h
  exact hasAliases_iff.2 ⟨key, designator, holds_iff.2 hstored⟩

end AliasRegistry

/-! ## Written references -/

namespace Reference

/-- A reference whose written form says where its parts end: its alias has no colon, and its
name is there and does not begin with one. -/
structure Separable (reference : Reference) : Prop where
  /-- The alias has no colon. -/
  qualifier : ':' ∉ reference.qualifier
  /-- The name has a first character, which is no colon. -/
  name : ∃ c cs, reference.name = c :: cs ∧ c ≠ ':'

/-- The reference with its parts folded. -/
def fold (policy : CasePolicy) (reference : Reference) : Reference :=
  ⟨policy.foldChars reference.qualifier, reference.any, policy.foldChars reference.name⟩

/-- A written reference is taken apart into its parts. -/
theorem parse?_write {reference : Reference} (h : reference.Separable) :
    parse? reference.write = some reference :=
  (spells_write h.qualifier fun _ => h.name).parse?_eq

variable {policy : CasePolicy} (hpolicy : policy ≠ .invert)

include hpolicy

/-- Folding a written reference folds its parts. -/
theorem foldChars_write (reference : Reference) :
    policy.foldChars reference.write = (reference.fold policy).write := by
  -- the colons that are written between the parts are folded to themselves
  have hcolon : policy.foldChar ':' = ':' := (CasePolicy.foldChar_eq_colon_iff policy ':').2 rfl
  obtain ⟨qualifier, any, name⟩ := reference
  cases any <;> simp [write, fold, CasePolicy.foldChars_eq_map hpolicy, hcolon]

/-- Folding keeps a reference separable. -/
theorem Separable.fold {reference : Reference} (h : reference.Separable) :
    (reference.fold policy).Separable := by
  obtain ⟨c, cs, hname, hc⟩ := h.name
  refine ⟨?_, policy.foldChar c, cs.map policy.foldChar, ?_, ?_⟩
  · exact fun hmem => h.qualifier ((CasePolicy.colon_mem_foldChars_iff hpolicy _).1 hmem)
  · simp only [Reference.fold, hname, CasePolicy.foldChars_eq_map hpolicy, List.map_cons]
  · exact fun hfold => hc ((CasePolicy.foldChar_eq_colon_iff policy c).1 hfold)

end Reference

end AliasReader
