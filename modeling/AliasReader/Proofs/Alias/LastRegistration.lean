import AliasReader.Proofs.Alias.Registration
import AliasReader.Proofs.Alias.Resolution

/-!
# The Last Registration of a Namespace

Giving a namespace aliases replaces whatever aliases it had, and a refused request replaces nothing.
So after any course of requests the table of a namespace is that of the last granted request for it,
and what an alias stands for can be read off the pairs of that one request.

## Main definitions

* `AliasRegistry.Request` and `AliasRegistry.performAll`: requests to give a namespace aliases, and
  the registry that a course of them leaves;
* `AliasRegistry.Request.Granted`: the requests that are not refused;
* `AliasRegistry.lastGranted?`: the last granted request for a namespace.

## Main results

* `AliasRegistry.table?_performAll`: the table of a namespace after a course of requests;
* `AliasRegistry.determined_performAll`: the aliases of a namespace are determined by the last
  granted request for it.
-/

namespace AliasReader

namespace AliasRegistry

/-! ## Requests -/

/-- A request to give a namespace aliases in place of those that it has. -/
inductive Request where
  /-- Store the aliases as they are. -/
  | set (id : NamespaceId) (pairs : List (Designator × String))
  /-- Fold the aliases and store them. -/
  | register (id : NamespaceId) (pairs : List (Designator × String)) (policy : CasePolicy)
deriving DecidableEq, Repr

namespace Request

/-- The namespace that is to have the aliases. -/
def id : Request → NamespaceId
  | set id _ => id
  | register id _ _ => id

/-- The pairs as they are given. -/
def pairs : Request → List (Designator × String)
  | set _ pairs => pairs
  | register _ pairs _ => pairs

/-- The pairs with their aliases in the form in which they are stored. -/
def stored : Request → List (Designator × String)
  | set _ pairs => pairs
  | register _ pairs policy => pairs.map fun pair => (pair.1, policy.fold pair.2)

/-- A request is granted unless an alias would have to be folded under the policy `invert`. -/
def Granted : Request → Prop
  | set _ _ => True
  | register _ pairs policy => policy = .invert → pairs = []

instance : DecidablePred Granted
  | set _ _ => inferInstanceAs (Decidable True)
  | register _ pairs policy => inferInstanceAs (Decidable (policy = .invert → pairs = []))

/-- The designator of the last pair whose stored alias is `key`. -/
def designator? (request : Request) (key : String) : Option Designator :=
  (request.stored.filter (·.2 = key)).getLast?.map Prod.fst

variable {request : Request}

/-- As many pairs are stored as are given. -/
theorem stored_eq_nil_iff : request.stored = [] ↔ request.pairs = [] := by
  cases request with
  | set id pairs => rfl
  | register id pairs policy => simp [stored, Request.pairs]

/-- In the table of a request an alias has the designator of its last pair. -/
theorem find?_ofPairs_stored (request : Request) (key : String) :
    (AliasTable.ofPairs request.stored).find? key = request.designator? key := by
  rw [AliasTable.find?_ofPairs, designator?, List.getLast?_filter]

/-- Some alias is stored exactly when some pair is given. -/
theorem exists_designator?_iff :
    (∃ key designator, request.designator? key = some designator) ↔ request.pairs ≠ [] := by
  rw [Ne, ← stored_eq_nil_iff]
  constructor
  · rintro ⟨key, designator, hkey⟩ hnil
    simp [designator?, hnil] at hkey
  · intro hstored
    obtain ⟨pair, hpair⟩ := List.exists_mem_of_ne_nil _ hstored
    -- the alias of any pair has a last pair
    have hfilter : request.stored.filter (·.2 = pair.2) ≠ [] :=
      List.ne_nil_of_mem (List.mem_filter.2 ⟨hpair, by simp⟩)
    have hlast := List.getLast?_eq_some_getLast hfilter
    exact ⟨pair.2, _, by rw [designator?, hlast, Option.map_some]⟩

end Request

/-- The answer to a request: the registry with the new aliases, or the reason for a refusal. -/
def answer (registry : AliasRegistry) : Request → Except AliasFailure AliasRegistry
  | .set id pairs => .ok (registry.set id pairs)
  | .register id pairs policy => registry.register id pairs policy

/-- The registry that a request leaves, which is the old one if the request is refused. -/
def perform (registry : AliasRegistry) (request : Request) : AliasRegistry :=
  match registry.answer request with
  | .ok after => after
  | .error _ => registry

/-- The registry that a course of requests leaves. -/
def performAll (registry : AliasRegistry) (requests : List Request) : AliasRegistry :=
  requests.foldl perform registry

/-- The last granted request for a namespace. -/
def lastGranted? (id : NamespaceId) (requests : List Request) : Option Request :=
  (requests.filter fun request => request.id = id ∧ request.Granted).getLast?

variable {registry : AliasRegistry} {request : Request} {requests : List Request}
  {id : NamespaceId}

/-! ## One request -/

/-- A granted request replaces the aliases of its namespace by the pairs that it stores. -/
theorem answer_of_granted (registry : AliasRegistry) (h : request.Granted) :
    registry.answer request = .ok (registry.set request.id request.stored) := by
  cases request with
  | set id pairs => rfl
  | register id pairs policy => exact register_eq_ok_iff.2 ⟨h, rfl⟩

/-- A request that is not granted is refused for its policy. -/
theorem answer_of_not_granted (registry : AliasRegistry) (h : ¬ request.Granted) :
    registry.answer request = .error (.unsupportedCase .invert) := by
  cases request with
  | set id pairs => exact absurd trivial h
  | register id pairs policy =>
    obtain ⟨rfl, hpairs⟩ : policy = .invert ∧ pairs ≠ [] := Classical.not_imp.1 h
    exact register_invert registry id hpairs

theorem perform_of_granted (registry : AliasRegistry) (h : request.Granted) :
    registry.perform request = registry.set request.id request.stored := by
  rw [perform, answer_of_granted registry h]

theorem perform_of_not_granted (registry : AliasRegistry) (h : ¬ request.Granted) :
    registry.perform request = registry := by
  rw [perform, answer_of_not_granted registry h]

/-- A granted request changes the table of its own namespace, and no request any other one. -/
theorem table?_perform (registry : AliasRegistry) (request : Request) (id : NamespaceId) :
    (registry.perform request).table? id =
      if request.id = id ∧ request.Granted then some (.ofPairs request.stored)
      else registry.table? id := by
  by_cases hgranted : request.Granted
  · rw [perform_of_granted registry hgranted, set, table?_replace]
    simp only [hgranted, and_true, eq_comm (a := id)]
  · rw [perform_of_not_granted registry hgranted, if_neg fun h => hgranted h.2]

/-! ## Courses of requests -/

/-- A request in front of others is the last granted one if none of the others is granted. -/
theorem lastGranted?_cons (request : Request) (requests : List Request) (id : NamespaceId) :
    lastGranted? id (request :: requests) =
      (lastGranted? id requests).or
        (if request.id = id ∧ request.Granted then some request else none) := by
  unfold lastGranted?
  by_cases hrequest : request.id = id ∧ request.Granted
  · rw [List.filter_cons_of_pos (by simpa using hrequest), List.getLast?_cons, if_pos hrequest]
    cases (requests.filter _).getLast? <;> rfl
  · rw [List.filter_cons_of_neg (by simpa using hrequest), if_neg hrequest, Option.or_none]

/-- A namespace has a granted request exactly when it has a last one. -/
theorem exists_lastGranted?_iff :
    (∃ request, lastGranted? id requests = some request) ↔
      ∃ request ∈ requests, request.id = id ∧ request.Granted := by
  rw [← Option.isSome_iff_exists, lastGranted?, List.getLast?_isSome, Ne, List.filter_eq_nil_iff]
  simp

/-- After a course of requests the table of a namespace is that of the last granted one, or the one
that it had before. -/
theorem table?_performAll (registry : AliasRegistry) (requests : List Request) (id : NamespaceId) :
    (registry.performAll requests).table? id =
      ((lastGranted? id requests).map fun request => AliasTable.ofPairs request.stored).or
        (registry.table? id) := by
  induction requests generalizing registry with
  | nil => rfl
  | cons request rest ih =>
    -- the table that the first request leaves counts unless a later one is granted
    have hrest : (registry.performAll (request :: rest)).table? id = _ := ih (registry.perform request)
    rw [hrest, table?_perform, lastGranted?_cons, Option.map_or, Option.or_assoc]
    split <;> rfl

/-- What is stored for a namespace in the end is what its last granted request stores. -/
theorem holds_performAll_iff {key : String} {designator : Designator} :
    (empty.performAll requests).Holds id key designator ↔
      ∃ request, lastGranted? id requests = some request ∧
        request.designator? key = some designator := by
  have hempty : empty.table? id = none := rfl
  rw [holds_iff, table?_performAll, hempty, Option.or_none, Option.bind_map,
    Option.bind_eq_some_iff]
  simp only [Function.comp_apply, Request.find?_ofPairs_stored]

/-- The aliases of a namespace are determined by the last granted request for it alone. A request is
granted unless it gives aliases to be folded under the policy `invert`; then it is refused and
changes nothing. A namespace has a table exactly when a request for it was granted. An alias is
stored with the designator of its last pair in the last granted request, and stands for the
namespace that this designator means when the alias is used. The namespace has aliases exactly when
that request gives any pair. -/
theorem determined_performAll (requests : List Request) (id : NamespaceId) :
    let registry := empty.performAll requests
    let last? := lastGranted? id requests
    (∀ start request, request.Granted →
      answer start request = .ok (start.set request.id request.stored)) ∧
    (∀ start request, ¬ request.Granted →
      answer start request = .error (.unsupportedCase .invert) ∧
        start.perform request = start) ∧
    ((∃ table, registry.table? id = some table) ↔
      ∃ request ∈ requests, request.id = id ∧ request.Granted) ∧
    (∀ key designator, registry.Holds id key designator ↔
      ∃ request, last? = some request ∧ request.designator? key = some designator) ∧
    (∀ host key target, registry.resolve host id key = .ok target ↔
      ∃ request designator, last? = some request ∧ request.designator? key = some designator ∧
        host.find? designator = some target) ∧
    (registry.hasAliases id = true ↔ ∃ request, last? = some request ∧ request.pairs ≠ []) := by
  intro registry last?
  have hempty : empty.table? id = none := rfl
  have hholds : ∀ key designator, registry.Holds id key designator ↔
      ∃ request, last? = some request ∧ request.designator? key = some designator :=
    fun key designator => holds_performAll_iff
  refine ⟨fun start request => answer_of_granted start, fun start request h =>
    ⟨answer_of_not_granted start h, perform_of_not_granted start h⟩, ?_, hholds, ?_, ?_⟩
  · rw [← exists_lastGranted?_iff, table?_performAll, hempty, Option.or_none]
    simp [Option.map_eq_some_iff]
  · intro host key target
    simp only [resolve_eq_ok_iff, ← holds_iff, hholds]
    constructor
    · rintro ⟨designator, ⟨request, hlast, hkey⟩, hfind⟩
      exact ⟨request, designator, hlast, hkey, hfind⟩
    · rintro ⟨request, designator, hlast, hkey, hfind⟩
      exact ⟨designator, ⟨request, hlast, hkey⟩, hfind⟩
  · -- the last request stores some alias unless it gives no pair
    simp only [hasAliases_iff, hholds, ← Request.exists_designator?_iff]
    constructor
    · rintro ⟨key, designator, request, hlast, hkey⟩
      exact ⟨request, hlast, key, designator, hkey⟩
    · rintro ⟨request, hlast, key, designator, hkey⟩
      exact ⟨key, designator, request, hlast, hkey⟩

/-- Two aliases that are the same when they are folded take the place of an earlier one. A later
request is refused, and another namespace gets a table without aliases, under the same policy. -/
theorem determined_performAll_collapsed :
    let replacing : Request := .register ⟨0⟩ [(.named "LIB", "x"), (.named "KIT", "X")] .upcase
    let refused : Request := .register ⟨0⟩ [(.named "LATE", "y")] .invert
    let requests := [.set ⟨0⟩ [(.named "OLD", "o")], replacing, refused, .register ⟨1⟩ [] .invert]
    let registry := empty.performAll requests
    ¬ refused.Granted ∧ registry.perform refused = registry ∧
      lastGranted? ⟨0⟩ requests = some replacing ∧ registry.Holds ⟨0⟩ "X" (.named "KIT") ∧
      (¬ ∃ designator, registry.Holds ⟨0⟩ "o" designator) ∧
      (∃ table, registry.table? ⟨1⟩ = some table) ∧ ¬ registry.hasAliases ⟨1⟩ = true := by
  intro replacing refused requests registry
  obtain ⟨-, hrefused, -, hholds, -, -⟩ := determined_performAll requests ⟨0⟩
  obtain ⟨-, -, htable, -, -, haliases⟩ := determined_performAll requests ⟨1⟩
  have hnot : ¬ refused.Granted := by decide
  have hlast : lastGranted? ⟨0⟩ requests = some replacing := by decide
  have hother : lastGranted? ⟨1⟩ requests = some (.register ⟨1⟩ [] .invert) := by decide
  refine ⟨hnot, (hrefused registry refused hnot).2, hlast, ?_, ?_, ?_, ?_⟩
  · exact (hholds "X" (.named "KIT")).2 ⟨replacing, hlast, by decide⟩
  · rintro ⟨designator, hold⟩
    obtain ⟨request, hrequest, hkey⟩ := (hholds "o" designator).1 hold
    obtain rfl := Option.some.inj (hlast.symm.trans hrequest)
    have hnone : replacing.designator? "o" = none := by decide
    rw [hnone] at hkey
    cases hkey
  · exact htable.2 ⟨.register ⟨1⟩ [] .invert, by decide, rfl, by decide⟩
  · intro hany
    obtain ⟨request, hrequest, hpairs⟩ := haliases.1 hany
    obtain rfl := Option.some.inj (hother.symm.trans hrequest)
    exact hpairs rfl

end AliasRegistry

end AliasReader
