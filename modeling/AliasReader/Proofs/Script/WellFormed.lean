import AliasReader.Proofs.Alias.Registration
import AliasReader.Proofs.Alias.Resolution
import AliasReader.Proofs.Script.Safety

/-!
# Well-Formed Sessions

Whatever is run in a session, its parts go on fitting each other. The table and the settings are
those that it was started with. The current namespace exists, and so does every namespace for which
aliases were given. An alias comes into the registry through one directive, which folds it by the
policy of the session and puts a name under it; under the policy `invert` that directive is refused,
unless it gives no aliases at all.

## Main definitions

* `Session.WellFormed`: the parts of a session fit each other.

## Main results

* `AliasRegistry.holds_of_register`: where a stored alias comes from;
* `Session.WellFormed.takeForm`: a form keeps a session well-formed, also when it fails;
* `Session.Passes.wellFormed` and `Session.WellFormed.runForms`: so do forms and runs.
-/

namespace AliasReader

/-- A namespace that requests found exists afterwards. -/
theorem SymbolTable.Serves.hasNamespace {table after : SymbolTable} {id : NamespaceId}
    (h : table.Serves after) (hid : table.hasNamespace id = true) :
    after.hasNamespace id = true := by
  induction h with
  | refl => exact hid
  | perform _ _ ih => exact hasNamespace_of_length_le (length_le_perform _) ih

/-! ## Stored aliases -/

namespace AliasRegistry

variable {registry registered : AliasRegistry} {policy : CasePolicy} {id other : NamespaceId}
  {pairs : List (Designator × String)} {key : String} {designator : Designator}

/-- A namespace for which no alias is stored has no aliases. -/
theorem hasAliases_eq_false (h : ∀ key designator, ¬ registry.Holds id key designator) :
    registry.hasAliases id = false := by
  apply Bool.eq_false_iff.2
  intro haliases
  obtain ⟨key, designator, hholds⟩ := hasAliases_iff.1 haliases
  exact h key designator hholds

/-- A registration gives a table to one namespace. -/
theorem table?_of_register (h : registry.register id pairs policy = .ok registered)
    (hother : other ≠ id) : registered.table? other = registry.table? other := by
  obtain ⟨-, rfl⟩ := register_eq_ok_iff.1 h
  rw [set, table?_replace, if_neg hother]

/-- A stored alias was stored before, or it is one of the given aliases, folded by a policy that
folds references. -/
theorem holds_of_register (h : registry.register id pairs policy = .ok registered)
    (hholds : registered.Holds other key designator) :
    registry.Holds other key designator ∨
      policy ≠ .invert ∧ ∃ given, (designator, given) ∈ pairs ∧ key = policy.fold given := by
  obtain ⟨hgranted, rfl⟩ := register_eq_ok_iff.1 h
  rcases mem_of_holds_set hholds with hmem | hbefore
  · obtain ⟨⟨_, given⟩, hgiven, heq⟩ := List.mem_map.1 hmem
    obtain ⟨rfl, rfl⟩ := Prod.mk.inj heq
    -- under the policy `invert` no alias can be given
    have hpolicy : policy ≠ .invert := fun hinvert =>
      List.ne_nil_of_mem hgiven (hgranted hinvert)
    exact Or.inr ⟨hpolicy, given, hgiven, rfl⟩
  · exact Or.inl hbefore

end AliasRegistry

/-! ## Sessions -/

namespace Session

/-- The parts of a session that was started with the given settings fit each other. -/
structure WellFormed (config : SentinelConfig) (session : Session) : Prop where
  /-- The settings are those of the start. -/
  settings : session.config = config
  /-- The table is the standard one with the sentinel installed. -/
  table : session.table = ReadTable.standard.installConfigured config store
  /-- The current namespace exists. -/
  current : session.host.hasNamespace session.current = true
  /-- Every namespace for which aliases were given exists. -/
  aliased : ∀ id table, session.registry.table? id = some table →
    session.host.hasNamespace id = true
  /-- A stored alias is folded already, and a name is stored for it. -/
  folded : ∀ id key designator, session.registry.Holds id key designator →
    config.case.fold key = key ∧ ∃ name, designator = .named name
  /-- Under the policy `invert` no namespace has aliases. -/
  unaliased : config.case = .invert → ∀ id, session.registry.hasAliases id = false

variable {config : SentinelConfig} {session : Session}

theorem wellFormed_start (config : SentinelConfig) : (start config).WellFormed config where
  settings := rfl
  table := rfl
  current := rfl
  aliased := by rintro id table ⟨⟩
  folded := by rintro id key designator ⟨table, ⟨⟩, -⟩
  unaliased _ _ := rfl

namespace WellFormed

variable (h : session.WellFormed config)

include h

/-- The table folds by the policy of the session. -/
theorem case_eq : session.table.case = config.case := by
  rw [h.table]
  rfl

/-- A session with further namespaces and another current one is well-formed. -/
theorem of_host {host : SymbolTable} {current : NamespaceId}
    (hhost : ∀ id, session.host.hasNamespace id = true → host.hasNamespace id = true)
    (hcurrent : host.hasNamespace current = true) :
    WellFormed config { session with host, current } where
  settings := h.settings
  table := h.table
  current := hcurrent
  aliased id table htable := hhost id (h.aliased id table htable)
  folded := h.folded
  unaliased := h.unaliased

/-- A session in which the current namespace was given folded aliases of names is well-formed. -/
theorem of_register {pairs : List (Designator × String)} {registered : AliasRegistry}
    (hregister : session.registry.register session.current pairs config.case = .ok registered)
    (hnames : ∀ pair ∈ pairs, ∃ name, pair.1 = .named name) :
    WellFormed config { session with registry := registered } where
  settings := h.settings
  table := h.table
  current := h.current
  aliased := by
    intro id table htable
    -- only the current namespace is given a table, and it exists
    by_cases hid : id = session.current
    · rw [hid]
      exact h.current
    · have hbefore : registered.table? id = some table := htable
      rw [AliasRegistry.table?_of_register hregister hid] at hbefore
      exact h.aliased id table hbefore
  folded := by
    intro id key designator hholds
    rcases AliasRegistry.holds_of_register hregister hholds with
      hbefore | ⟨hpolicy, given, hmem, rfl⟩
    · exact h.folded id key designator hbefore
    · exact ⟨CasePolicy.fold_fold hpolicy given, hnames _ hmem⟩
  unaliased := by
    intro hinvert id
    -- a further alias would have been folded by another policy
    refine AliasRegistry.hasAliases_eq_false fun key designator hholds => ?_
    rcases AliasRegistry.holds_of_register hregister hholds with
      ⟨table, htable, hmem⟩ | ⟨hpolicy, -⟩
    · have hnone := h.unaliased hinvert id
      simp only [AliasRegistry.hasAliases, htable, Option.any_some, AliasTable.isEmpty,
        Bool.not_eq_eq_eq_not, Bool.not_false, List.isEmpty_iff] at hnone
      rw [hnone] at hmem
      exact absurd hmem List.not_mem_nil
    · exact hpolicy hinvert

/-- A directive keeps a session well-formed, whether it is carried out or refused. -/
theorem execute (hsession : session.Sound) (span : Span) (directive : Directive) :
    (session.execute span directive).2.WellFormed config := by
  have hafter := (hsession.execute span directive).current
  have hserves := serves_execute session span directive
  cases directive with
  | define name external internal =>
    rw [Session.execute] at hafter hserves ⊢
    rcases hcreate : session.host.create name with ⟨_ | id, host⟩ <;>
      rw [hcreate] at hafter hserves <;>
      exact h.of_host (fun _ hid => hserves.hasNamespace hid) hafter
  | enter name =>
    rw [Session.execute] at hafter ⊢
    cases hrequire : session.host.require (.named name) with
    | error failure => exact h
    | ok current =>
      rw [hrequire] at hafter
      exact h.of_host (fun _ hid => hid) hafter
  | setAliases pairs =>
    rw [Session.execute]
    dsimp only
    split
    · exact h
    next registered hregister =>
      rw [h.case_eq] at hregister
      refine h.of_register hregister fun pair hpair => ?_
      obtain ⟨given, -, rfl⟩ := List.mem_map.1 hpair
      exact ⟨given.1, rfl⟩

/-- Reading keeps a session well-formed. -/
theorem afterReading (hsession : session.Sound) {cursor : Cursor} {reader : Reader}
    (hreader : (session.reader cursor).Interned reader) :
    (session.afterReading reader).WellFormed config :=
  h.of_host (fun _ hid => (hsession.serves_afterReading hreader).hasNamespace hid)
    (hsession.afterReading hreader).current

/-- A form keeps a session well-formed, whatever becomes of it. -/
theorem takeForm (hsession : session.Sound) (cursor : Cursor) :
    (session.takeForm cursor).session.WellFormed config := by
  unfold Session.takeForm
  dsimp only
  split
  · exact h
  · have hread : ((session.reader cursor).skipWhitespace.readForm session.stores).Interned _ :=
      Reader.readForm_interned session.stores hsession.table
    generalize Reader.readForm session.stores _ = outcome at hread
    cases outcome with
    | value result reader =>
      have hafter := h.afterReading hsession hread
      cases result with
      | none => exact hafter
      | some datum =>
        -- the datum was emitted, or it was a directive
        rw [stepAfter]
        rcases session_react (session.afterReading reader) reader.cursor _ datum with
          hsame | ⟨directive, hexecuted⟩
        · rw [hsame]
          exact hafter
        · rw [hexecuted]
          exact hafter.execute (hsession.afterReading hread) _ directive
    | failed failure reader => exact h.afterReading hsession hread
    | dangling reader => exact h.afterReading hsession hread
    | exhausted => exact h

theorem of_passed (hsession : session.Sound) {cursor place : Cursor} {lines : List String}
    {mid : Session} (htake : session.takeForm cursor = .passed lines mid place) :
    mid.WellFormed config := by
  have hmid := h.takeForm hsession cursor
  rw [htake] at hmid
  exact hmid

/-- A run keeps a session well-formed, whatever it ends with. -/
theorem runForms (hsession : session.Sound) (count : Nat) (cursor : Cursor) :
    (runForms count session cursor).session.WellFormed config := by
  induction count generalizing session cursor with
  | zero => exact h
  | succ count ih =>
    have hstep := h.takeForm hsession cursor
    rw [runForms_succ]
    split
    next htake => exact ih (h.of_passed hsession htake) (hsession.of_passed htake) _
    next htake =>
      rw [htake] at hstep
      exact hstep

end WellFormed

/-- Between the forms of a run a session is well-formed. -/
theorem Passes.wellFormed {last : Session} {cursor stop : Cursor} {lines : List String}
    (hpasses : Passes session cursor lines last stop) (h : session.WellFormed config)
    (hsession : session.Sound) : last.WellFormed config := by
  induction hpasses with
  | refl => exact h
  | step htake _ ih => exact ih (h.of_passed hsession htake) (hsession.of_passed htake)

end Session

end AliasReader
