import AliasReader.Alias.Reference
import AliasReader.Proofs.Alias.Resolution
import AliasReader.Proofs.Namespace.WellFormed

/-!
# Visibility of Aliased References

A reference looks its name up through the interned texts, the bindings of the aliased namespace
and the list of its external symbols. What a user is promised speaks of the symbols instead:
their homes, their names and their visibility. `Reference.Verdict` states the promise, one rule
for each way in which a token can end, and in a reachable symbol table `Reference.resolveToken?`
comes to exactly that verdict.

## Main results

* `Reference.resolveToken?_eq_iff`: the answer to a token is its verdict;
* `Reference.resolveToken?_exact`: when a token names a symbol and when it fails in which way.
-/

namespace AliasReader

namespace Reference

variable {host : SymbolTable} {registry : AliasRegistry} {id : NamespaceId}

/-- A token is a reference, and its alias stands for the namespace `target`. -/
def Points (host : SymbolTable) (registry : AliasRegistry) (id : NamespaceId) (token : String)
    (reference : Reference) (target : NamespaceId) : Prop :=
  parse? token.toList = some reference ∧
    registry.resolve host id (String.ofList reference.qualifier) = .ok target

/-- What the aliases of the namespace `id` make of a token. -/
inductive Verdict (host : SymbolTable) (registry : AliasRegistry) (id : NamespaceId)
    (token : String) : Except AliasFailure SymbolId → Prop
  /-- The token is no reference. -/
  | malformed :
      parse? token.toList = none → Verdict host registry id token (.error .malformedReference)
  /-- The alias stands for nothing. -/
  | unknown {reference : Reference} {failure : AliasFailure} :
      parse? token.toList = some reference →
      registry.resolve host id (String.ofList reference.qualifier) = .error failure →
      Verdict host registry id token (.error failure)
  /-- The aliased namespace has no symbol of the name. -/
  | missing {reference : Reference} {target : NamespaceId} {text : String} :
      Points host registry id token reference target →
      host.name? target = some text →
      (∀ symbol, ¬ host.Owns target (String.ofList reference.name) symbol) →
      Verdict host registry id token
        (.error (.unresolvedIdentifier text (String.ofList reference.name)))
  /-- The symbol is internal and was asked for as an external one. -/
  | hidden {reference : Reference} {target : NamespaceId} {text : String} {symbol : SymbolId} :
      Points host registry id token reference target →
      host.name? target = some text →
      host.Owns target (String.ofList reference.name) symbol →
      host.visibility? symbol = some .internal → reference.any = false →
      Verdict host registry id token (.error (.notExternal text (String.ofList reference.name)))
  /-- The symbol may be named. -/
  | named {reference : Reference} {target : NamespaceId} {symbol : SymbolId} :
      Points host registry id token reference target →
      host.Owns target (String.ofList reference.name) symbol →
      (reference.any = false → host.visibility? symbol = some .external) →
      Verdict host registry id token (.ok symbol)

/-- An alias fails as an unknown one only. -/
theorem resolve_eq_error {key : String} {failure : AliasFailure}
    (h : registry.resolve host id key = .error failure) :
    ∃ designator, failure = .unknownAlias key designator := by
  unfold AliasRegistry.resolve at h
  split at h
  · exact ⟨none, (Except.error.inj h).symm⟩
  · split at h
    · exact ⟨_, (Except.error.inj h).symm⟩
    · cases h

/-- The target of an alias is a namespace of a well-formed table. -/
theorem Points.exists_name (hhost : host.WellFormed) {token : String} {reference : Reference}
    {target : NamespaceId} (h : Points host registry id token reference target) :
    host.hasNamespace target = true ∧ ∃ text, host.name? target = some text := by
  obtain ⟨designator, -, hfind⟩ := AliasRegistry.resolve_eq_ok_iff.1 h.2
  have hhas := hhost.hasNamespace_of_find? hfind
  obtain ⟨entry, hentry⟩ := (host.hasNamespace_iff target).1 hhas
  exact ⟨hhas, entry.name, by simp [SymbolTable.name?, hentry]⟩

/-- A reference names a symbol of its target exactly when the symbol was made there under its name
and, with one colon, is external. -/
theorem lookup?_eq_ok_iff (hhost : host.WellFormed) {reference : Reference} {target : NamespaceId}
    {symbol : SymbolId} :
    reference.lookup? host target = some (.ok symbol) ↔
      host.Owns target (String.ofList reference.name) symbol ∧
        (reference.any = false → host.visibility? symbol = some .external) := by
  constructor
  · intro hlookup
    unfold lookup? at hlookup
    dsimp only at hlookup
    split at hlookup
    next found _ hfound _ =>
      obtain rfl : found = symbol := Except.ok.inj (Option.some.inj hlookup)
      obtain ⟨howns, hexternal⟩ := (hhost.lookup?_eq_found_iff _ _ _ _).1 hfound
      exact ⟨howns, fun _ => hexternal⟩
    next found _ hfound _ =>
      cases hany : reference.any with
      | true =>
        obtain rfl : found = symbol := by simpa [hany] using hlookup
        exact ⟨((hhost.lookup?_eq_found_iff _ _ _ _).1 hfound).1, by simp⟩
      | false => simp [hany] at hlookup
    next => cases hlookup
    next => cases hlookup
  · rintro ⟨howns, hexternal⟩
    -- looking the name up finds the symbol with its visibility, whichever it is
    obtain ⟨entry, hentry⟩ := (host.hasNamespace_iff target).1 (hhost.hasNamespace_of_owns howns)
    have htext : host.name? target = some entry.name := by simp [SymbolTable.name?, hentry]
    obtain ⟨visibility, hvisibility, hlookup⟩ := hhost.exists_visibility howns
    cases visibility with
    | external => simp [lookup?, hlookup, htext]
    | internal =>
      -- one colon would ask for an external symbol
      have hany : reference.any = true := by
        by_contra hone
        simp [hexternal (by simpa using hone)] at hvisibility
      simp [lookup?, hlookup, htext, hany]

/-- A token names a symbol exactly when it is a reference whose target has that symbol under its
name, external if one colon was written. -/
theorem resolveToken?_eq_ok_iff (hhost : host.WellFormed) {token : String} {symbol : SymbolId} :
    resolveToken? host registry id token = some (.ok symbol) ↔
      ∃ reference target, Points host registry id token reference target ∧
        host.Owns target (String.ofList reference.name) symbol ∧
        (reference.any = false → host.visibility? symbol = some .external) := by
  simp only [← lookup?_eq_ok_iff hhost]
  constructor
  · intro hanswer
    unfold resolveToken? parse resolve? at hanswer
    cases hparse : parse? token.toList with
    | none => simp [hparse] at hanswer
    | some reference =>
      cases hresolve : registry.resolve host id (String.ofList reference.qualifier) with
      | error failure => simp [hparse, hresolve] at hanswer
      | ok target =>
        refine ⟨reference, target, ⟨hparse, hresolve⟩, ?_⟩
        simp only [hparse, hresolve] at hanswer
        split at hanswer
        next => cases hanswer
        next found hfound =>
          obtain rfl := Except.ok.inj (Option.some.inj hanswer)
          exact hfound
        next failure hfailure => simp at hanswer
  · rintro ⟨reference, target, ⟨hparse, hresolve⟩, hlookup⟩
    simp [resolveToken?, parse, hparse, resolve?, hresolve, hlookup]

/-! ## The answer is the verdict -/

/-- The answer that stands for a verdict on a token. -/
def answer (token current : String) (verdict : Except AliasFailure SymbolId) :
    Option (Except ReferenceFailure SymbolId) :=
  some (verdict.mapError fun cause => ⟨cause, token, current⟩)

theorem answer_inj {token current : String} {verdict verdict' : Except AliasFailure SymbolId}
    (h : answer token current verdict = answer token current verdict') : verdict = verdict' := by
  cases verdict <;> cases verdict' <;> simp_all [answer, Except.mapError]

/-- A token that points to a namespace is answered by looking its name up there. -/
theorem Points.resolveToken?_eq {token current : String} {reference : Reference}
    {target : NamespaceId} (h : Points host registry id token reference target)
    (hid : host.name? id = some current) {verdict : Except AliasFailure SymbolId}
    (hlookup : reference.lookup? host target = some verdict) :
    resolveToken? host registry id token = answer token current verdict := by
  obtain ⟨hparse, hresolve⟩ := h
  -- only a failure carries the token and the name of the namespace
  cases verdict <;>
    simp [resolveToken?, parse, hparse, resolve?, hresolve, hlookup, hid, answer, Except.mapError]

/-- Every verdict is the answer to its token. -/
theorem Verdict.resolveToken?_eq (hhost : host.WellFormed) {token current : String}
    (hid : host.name? id = some current) {verdict : Except AliasFailure SymbolId}
    (h : Verdict host registry id token verdict) :
    resolveToken? host registry id token = answer token current verdict := by
  cases h with
  | malformed hparse =>
    simp [resolveToken?, parse, hparse, hid, answer, Except.mapError]
  | unknown hparse hresolve =>
    simp [resolveToken?, parse, hparse, resolve?, hresolve, hid, answer, Except.mapError]
  | missing hpoints htext hnone =>
    refine hpoints.resolveToken?_eq hid ?_
    have hlookup := (hhost.lookup?_eq_missing_iff (hpoints.exists_name hhost).1 _).2 hnone
    simp [lookup?, hlookup, htext]
  | hidden hpoints htext howns hinternal hany =>
    refine hpoints.resolveToken?_eq hid ?_
    have hlookup := (hhost.lookup?_eq_found_iff _ _ _ _).2 ⟨howns, hinternal⟩
    simp [lookup?, hlookup, htext, hany]
  | named hpoints howns hexternal =>
    exact hpoints.resolveToken?_eq hid ((lookup?_eq_ok_iff hhost).2 ⟨howns, hexternal⟩)

/-- Every token has a verdict. -/
theorem exists_verdict (hhost : host.WellFormed) (registry : AliasRegistry) (id : NamespaceId)
    (token : String) : ∃ verdict, Verdict host registry id token verdict := by
  cases hparse : parse? token.toList with
  | none => exact ⟨_, .malformed hparse⟩
  | some reference =>
    cases hresolve : registry.resolve host id (String.ofList reference.qualifier) with
    | error failure => exact ⟨_, .unknown hparse hresolve⟩
    | ok target =>
      have hpoints : Points host registry id token reference target := ⟨hparse, hresolve⟩
      obtain ⟨-, text, htext⟩ := hpoints.exists_name hhost
      -- the cases are those of the rules: the name, the colons and the visibility
      by_cases hnone : ∀ symbol, ¬ host.Owns target (String.ofList reference.name) symbol
      · exact ⟨_, .missing hpoints htext hnone⟩
      · obtain ⟨symbol, howns⟩ := not_forall_not.1 hnone
        obtain ⟨visibility, hvisibility, -⟩ := hhost.exists_visibility howns
        cases hany : reference.any with
        | true => exact ⟨_, .named hpoints howns (by simp [hany])⟩
        | false =>
          cases visibility with
          | external => exact ⟨_, .named hpoints howns fun _ => hvisibility⟩
          | internal => exact ⟨_, .hidden hpoints htext howns hvisibility hany⟩

/-- In a well-formed table the answer to a token is its verdict. -/
theorem resolveToken?_eq_iff (hhost : host.WellFormed) (registry : AliasRegistry)
    {current : String} (hid : host.name? id = some current) (token : String)
    (verdict : Except AliasFailure SymbolId) :
    resolveToken? host registry id token = answer token current verdict ↔
      Verdict host registry id token verdict := by
  constructor
  · intro hanswer
    -- the token has some verdict, and the answer can stand for no other one
    obtain ⟨verdict', h⟩ := exists_verdict hhost registry id token
    rw [h.resolveToken?_eq hhost hid] at hanswer
    rwa [answer_inj hanswer] at h
  · exact Verdict.resolveToken?_eq hhost hid

/-! ## When a token names a symbol, and when it fails

The rules of the verdict, read backwards. An alias that stands for nothing has the rule `unknown`
for every failure, so that rule is ruled out each time. -/

theorem verdict_ok_iff {token : String} {symbol : SymbolId} :
    Verdict host registry id token (.ok symbol) ↔
      ∃ reference target, Points host registry id token reference target ∧
        host.home? symbol = some target ∧
        host.symbolName? symbol = some (String.ofList reference.name) ∧
        (reference.any = false → host.visibility? symbol = some .external) := by
  constructor
  · intro h
    cases h with
    | named hpoints howns hexternal => exact ⟨_, _, hpoints, howns.1, howns.2, hexternal⟩
  · rintro ⟨reference, target, hpoints, hhome, hname, hexternal⟩
    exact .named hpoints ⟨hhome, hname⟩ hexternal

theorem verdict_notExternal_iff {token text name : String} :
    Verdict host registry id token (.error (.notExternal text name)) ↔
      ∃ reference target symbol, Points host registry id token reference target ∧
        host.name? target = some text ∧ String.ofList reference.name = name ∧
        host.Owns target name symbol ∧ host.visibility? symbol = some .internal ∧
        reference.any = false := by
  constructor
  · intro h
    cases h with
    | unknown _ hresolve =>
      obtain ⟨designator, hfailure⟩ := resolve_eq_error hresolve
      cases hfailure
    | hidden hpoints htext howns hinternal hany =>
      exact ⟨_, _, _, hpoints, htext, rfl, howns, hinternal, hany⟩
  · rintro ⟨reference, target, symbol, hpoints, htext, rfl, howns, hinternal, hany⟩
    exact .hidden hpoints htext howns hinternal hany

theorem verdict_unresolvedIdentifier_iff {token text name : String} :
    Verdict host registry id token (.error (.unresolvedIdentifier text name)) ↔
      ∃ reference target, Points host registry id token reference target ∧
        host.name? target = some text ∧ String.ofList reference.name = name ∧
        ∀ symbol, ¬ host.Owns target name symbol := by
  constructor
  · intro h
    cases h with
    | unknown _ hresolve =>
      obtain ⟨designator, hfailure⟩ := resolve_eq_error hresolve
      cases hfailure
    | missing hpoints htext hnone => exact ⟨_, _, hpoints, htext, rfl, hnone⟩
  · rintro ⟨reference, target, hpoints, htext, rfl, hnone⟩
    exact .missing hpoints htext hnone

theorem verdict_unknownAlias_iff {token key : String} {designator : Option String} :
    Verdict host registry id token (.error (.unknownAlias key designator)) ↔
      ∃ reference, parse? token.toList = some reference ∧
        String.ofList reference.qualifier = key ∧
        registry.resolve host id key = .error (.unknownAlias key designator) := by
  constructor
  · intro h
    cases h with
    | unknown hparse hresolve =>
      obtain ⟨other, hfailure⟩ := resolve_eq_error hresolve
      obtain ⟨rfl, rfl⟩ := AliasFailure.unknownAlias.inj hfailure
      exact ⟨_, hparse, rfl, hresolve⟩
  · rintro ⟨reference, hparse, rfl, hresolve⟩
    exact .unknown hparse hresolve

theorem verdict_malformedReference_iff {token : String} :
    Verdict host registry id token (.error .malformedReference) ↔
      parse? token.toList = none := by
  constructor
  · intro h
    cases h with
    | malformed hparse => exact hparse
    | unknown _ hresolve =>
      obtain ⟨designator, hfailure⟩ := resolve_eq_error hresolve
      cases hfailure
  · exact .malformed

/-- Resolving a token never fails on account of the case policy. -/
theorem Verdict.ne_unsupportedCase {token : String} {cause : AliasFailure}
    (h : Verdict host registry id token (.error cause)) (policy : CasePolicy) :
    cause ≠ .unsupportedCase policy := by
  rintro rfl
  cases h with
  | unknown _ hresolve =>
    obtain ⟨designator, hfailure⟩ := resolve_eq_error hresolve
    cases hfailure

/-- A token names a symbol exactly when its alias stands for the home of the symbol, its name is
that of the symbol, and the symbol is external if one colon was written; there is at most one
such symbol. Otherwise it fails: as not external exactly when the symbol is internal and one
colon was written, as unresolved exactly when the aliased namespace has no symbol of the name,
as an unknown alias exactly when the alias stands for nothing, and as malformed exactly when it
is no reference. -/
theorem resolveToken?_exact (hhost : host.Reachable) (registry : AliasRegistry)
    {current : String} (hid : host.name? id = some current) (token : String) :
    (∀ symbol, resolveToken? host registry id token = some (.ok symbol) ↔
      ∃ reference target, Points host registry id token reference target ∧
        host.home? symbol = some target ∧
        host.symbolName? symbol = some (String.ofList reference.name) ∧
        (reference.any = false → host.visibility? symbol = some .external)) ∧
    (∀ target name symbol symbol', host.Owns target name symbol →
      host.Owns target name symbol' → symbol = symbol') ∧
    (∀ text name, resolveToken? host registry id token =
        some (.error ⟨.notExternal text name, token, current⟩) ↔
      ∃ reference target symbol, Points host registry id token reference target ∧
        host.name? target = some text ∧ String.ofList reference.name = name ∧
        host.Owns target name symbol ∧ host.visibility? symbol = some .internal ∧
        reference.any = false) ∧
    (∀ text name, resolveToken? host registry id token =
        some (.error ⟨.unresolvedIdentifier text name, token, current⟩) ↔
      ∃ reference target, Points host registry id token reference target ∧
        host.name? target = some text ∧ String.ofList reference.name = name ∧
        ∀ symbol, ¬ host.Owns target name symbol) ∧
    (∀ key designator, resolveToken? host registry id token =
        some (.error ⟨.unknownAlias key designator, token, current⟩) ↔
      ∃ reference, parse? token.toList = some reference ∧
        String.ofList reference.qualifier = key ∧
        registry.resolve host id key = .error (.unknownAlias key designator)) ∧
    (resolveToken? host registry id token =
        some (.error ⟨.malformedReference, token, current⟩) ↔
      parse? token.toList = none) ∧
    ((∃ symbol, resolveToken? host registry id token = some (.ok symbol)) ∨
      ∃ cause, resolveToken? host registry id token = some (.error ⟨cause, token, current⟩) ∧
        ∀ policy, cause ≠ .unsupportedCase policy) := by
  have hwell := hhost.wellFormed
  have hiff := resolveToken?_eq_iff hwell registry hid token
  refine ⟨fun symbol => (hiff (.ok symbol)).trans verdict_ok_iff,
    fun _ _ _ _ howns howns' => hwell.owns_inj howns howns',
    fun text name => (hiff (.error _)).trans verdict_notExternal_iff,
    fun text name => (hiff (.error _)).trans verdict_unresolvedIdentifier_iff,
    fun key designator => (hiff (.error _)).trans verdict_unknownAlias_iff,
    (hiff (.error _)).trans verdict_malformedReference_iff, ?_⟩
  obtain ⟨verdict, hverdict⟩ := exists_verdict hwell registry id token
  have hanswer := hverdict.resolveToken?_eq hwell hid
  cases verdict with
  | ok symbol => exact Or.inl ⟨symbol, hanswer⟩
  | error cause => exact Or.inr ⟨cause, hanswer, hverdict.ne_unsupportedCase⟩

/-- A library with an external and an internal symbol, and a namespace that aliases it. -/
def libraryHost : SymbolTable :=
  SymbolTable.empty.performAll
    [.create "LIB", .create "USER", .internExternal ⟨0⟩ "PUB", .intern ⟨0⟩ "PRIV"]

/-- The aliases of the second namespace of `libraryHost`. -/
def libraryAliases : AliasRegistry :=
  AliasRegistry.empty.set ⟨1⟩ [(.named "LIB", "L"), (.named "GONE", "G")]

/-- With one colon the internal symbol is refused, and it is there all the same. -/
theorem resolveToken?_exact_internal :
    libraryHost.Reachable ∧ libraryHost.name? ⟨1⟩ = some "USER" ∧
      ∃ reference target symbol,
        Points libraryHost libraryAliases ⟨1⟩ "L:PRIV" reference target ∧
        libraryHost.name? target = some "LIB" ∧ String.ofList reference.name = "PRIV" ∧
        libraryHost.Owns target "PRIV" symbol ∧
        libraryHost.visibility? symbol = some .internal ∧ reference.any = false := by
  have hhost : libraryHost.Reachable := SymbolTable.Reachable.empty.performAll _
  have hid : libraryHost.name? ⟨1⟩ = some "USER" := by decide
  have hanswer : resolveToken? libraryHost libraryAliases ⟨1⟩ "L:PRIV" =
      some (.error ⟨.notExternal "LIB" "PRIV", "L:PRIV", "USER"⟩) := by decide
  obtain ⟨-, -, hnotExternal, -⟩ := resolveToken?_exact hhost libraryAliases hid "L:PRIV"
  exact ⟨hhost, hid, (hnotExternal "LIB" "PRIV").1 hanswer⟩

end Reference

end AliasReader
