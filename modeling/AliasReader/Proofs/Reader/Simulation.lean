import AliasReader.Proofs.Reader.Allowance

/-!
# Tables That Read Alike

Two tables may read every text alike although their handlers differ: a handler that only
delegates may stand where the other table has the binding that it falls back on. The relation
is stated character by character, and a simulation by the number of allowed calls carries it
over to whole readings. The first reading may need more calls than the second one, never fewer.

## Main definitions

* `BindingReadsLike` and `ReadTable.ReadsLike`: bindings and tables that read alike in a
  namespace;
* `Outcome.Agrees`: outcomes that differ in the active table only, neither of them given up.

## Main results

* `Steps.simulates_upTo`: the steps under one table follow those under the other;
* `Reader.agrees_of_readsLike`: readings under tables that read alike agree.
-/

namespace AliasReader

/-! ## Registries with the same aliases of a namespace

Whether a namespace has aliases and what a token names there depend on the table of that namespace
only. -/

namespace AliasRegistry

variable {registry registry' : AliasRegistry} {id : NamespaceId}
  (h : registry.table? id = registry'.table? id)

include h

theorem hasAliases_congr : registry.hasAliases id = registry'.hasAliases id := by
  rw [hasAliases, hasAliases, h]

theorem resolveToken?_congr (host : SymbolTable) (token : String) :
    Reference.resolveToken? host registry id token =
      Reference.resolveToken? host registry' id token := by
  have hresolve : ∀ key, registry.resolve host id key = registry'.resolve host id key := by
    intro key
    rw [resolve, resolve, h]
  simp only [Reference.resolveToken?, Reference.resolve?, hresolve]

end AliasRegistry

/-! ## Bindings and tables that read alike -/

/-- The handlers of the standard table. -/
def Handler.isStandard : Handler → Bool
  | .list | .close | .text | .quote | .comment => true
  | _ => false

section Likeness

variable (stores stores' : Stores) (id : NamespaceId)

/-- In the namespace `id`, a character with the first binding starts the same form as with the
second one. The first binding may be that of a sentinel which only delegates. -/
inductive BindingReadsLike (c : Char) :
    Option (Binding Handler) → Option (Binding Handler) → Prop
  /-- Both are unbound. -/
  | unbound : BindingReadsLike c none none
  /-- Both have the same standard handler. -/
  | standard {handler : Handler} (terminating : Bool) : handler.isStandard = true →
      BindingReadsLike c (some ⟨handler, terminating⟩) (some ⟨handler, terminating⟩)
  /-- Both read aliased references by the same aliases. -/
  | aliasing {store store' : StoreId} (terminating : Bool) :
      (stores store).table? id = (stores' store').table? id →
      BindingReadsLike c (some ⟨.aliasing store, terminating⟩)
        (some ⟨.aliasing store', terminating⟩)
  /-- Both are sentinels over the same aliases; without aliases they fall back alike. -/
  | sentinel {store store' : StoreId} {fallback fallback' : ReadTable} (terminating : Bool) :
      (stores store).table? id = (stores' store').table? id →
      ((stores store).hasAliases id = false →
        BindingReadsLike c (fallback.binding? c) (fallback'.binding? c)) →
      BindingReadsLike c (some ⟨.sentinel store fallback, terminating⟩)
        (some ⟨.sentinel store' fallback', terminating⟩)
  /-- Both delegate, and fall back alike. -/
  | delegating {fallback fallback' : ReadTable} (terminating : Bool) :
      BindingReadsLike c (fallback.binding? c) (fallback'.binding? c) →
      BindingReadsLike c (some ⟨.delegating fallback, terminating⟩)
        (some ⟨.delegating fallback', terminating⟩)
  /-- The first one is a sentinel without aliases over the second one. -/
  | unaliased {store : StoreId} {fallback : ReadTable} {binding : Option (Binding Handler)} :
      (stores store).hasAliases id = false →
      BindingReadsLike c (fallback.binding? c) binding →
      BindingReadsLike c (some ⟨.sentinel store fallback, fallback.isTerminating c⟩) binding

/-- In the namespace `id`, the two tables read alike: they fold alike, and every character has
bindings that read alike. -/
structure ReadTable.ReadsLike (table table' : ReadTable) : Prop where
  /-- Tokens are folded alike. -/
  case : table.case = table'.case
  /-- Every character has bindings that read alike. -/
  binding : ∀ c, BindingReadsLike stores stores' id c (table.binding? c) (table'.binding? c)

end Likeness

variable {stores stores' : Stores} {id : NamespaceId}

/-- Characters whose bindings read alike end the same tokens. -/
theorem BindingReadsLike.terminating_eq {c : Char} {binding binding' : Option (Binding Handler)}
    (h : BindingReadsLike stores stores' id c binding binding') :
    binding.any Binding.terminating = binding'.any Binding.terminating := by
  -- a sentinel was installed as terminating as what it falls back on
  induction h with
  | unaliased _ _ ih => exact ih
  | _ => rfl

/-- An ordinary handler reads like itself, whatever other namespaces have as aliases. -/
theorem Handler.Ordinary.readsLike_self {handler : Handler} (h : handler.Ordinary)
    (hstores : ∀ store, (stores store).table? id = (stores' store).table? id) (c : Char)
    (terminating : Bool) :
    BindingReadsLike stores stores' id c (some ⟨handler, terminating⟩)
      (some ⟨handler, terminating⟩) := by
  -- by induction on the fallback tables inside the handler
  induction h generalizing terminating with
  | list | close | text | quote | comment => exact .standard terminating rfl
  | aliasing store => exact .aliasing terminating (hstores store)
  | @sentinel store fallback _ ih =>
    refine .sentinel terminating (hstores store) fun _ => ?_
    cases hbinding : fallback.binding? c with
    | none => exact .unbound
    | some binding => exact ih c binding hbinding binding.terminating
  | @delegating fallback _ ih =>
    refine .delegating terminating ?_
    cases hbinding : fallback.binding? c with
    | none => exact .unbound
    | some binding => exact ih c binding hbinding binding.terminating

namespace ReadTable

/-- The bindings of an ordinary table read like themselves. -/
theorem Ordinary.binding_readsLike_self {table : ReadTable} (h : table.Ordinary)
    (hstores : ∀ store, (stores store).table? id = (stores' store).table? id) (c : Char) :
    BindingReadsLike stores stores' id c (table.binding? c) (table.binding? c) := by
  cases hbinding : table.binding? c with
  | none => exact .unbound
  | some binding => exact (h c binding hbinding).readsLike_self hstores c binding.terminating

/-- An ordinary table reads like itself. -/
theorem Ordinary.readsLike_self {table : ReadTable} (h : table.Ordinary)
    (hstores : ∀ store, (stores store).table? id = (stores' store).table? id) :
    table.ReadsLike stores stores' id table :=
  ⟨rfl, h.binding_readsLike_self hstores⟩

theorem case_rebindFrom (table source : ReadTable) (c : Char) :
    (table.rebindFrom source c).case = table.case := by
  unfold DispatchTable.rebindFrom
  split <;> rfl

namespace ReadsLike

variable {table table' : ReadTable} (h : table.ReadsLike stores stores' id table')

include h

/-- Tables that read alike go on tokens alike. -/
theorem continuesToken_eq : Reader.continuesToken table = Reader.continuesToken table' := by
  funext c
  have hterminating : table.isTerminating c = table'.isTerminating c :=
    (h.binding c).terminating_eq
  rw [Reader.continuesToken, Reader.continuesToken, hterminating]

/-- Tables that read alike go on to do so when a character is bound alike in both. -/
theorem rebindFrom {source source' : ReadTable} {c : Char}
    (hsource : BindingReadsLike stores stores' id c (source.binding? c) (source'.binding? c)) :
    ReadsLike stores stores' id (table.rebindFrom source c) (table'.rebindFrom source' c) := by
  refine ⟨?_, fun d => ?_⟩
  · rw [case_rebindFrom, case_rebindFrom, h.case]
  · rw [DispatchTable.binding?_rebindFrom, DispatchTable.binding?_rebindFrom]
    split
    next hd =>
      subst hd
      exact hsource
    next => exact h.binding d

/-- Tables that read alike go on to do so when a character is bound in the first as in the
second. -/
theorem rebindFrom_left {source : ReadTable} {c : Char}
    (hsource : BindingReadsLike stores stores' id c (source.binding? c) (table'.binding? c)) :
    ReadsLike stores stores' id (table.rebindFrom source c) table' := by
  refine ⟨?_, fun d => ?_⟩
  · rw [case_rebindFrom, h.case]
  · rw [DispatchTable.binding?_rebindFrom]
    split
    next hd =>
      subst hd
      exact hsource
    next => exact h.binding d

end ReadsLike

end ReadTable

/-! ## Outcomes under two tables -/

namespace Outcome

variable {α β : Type}

/-- The second outcome is what the first one is under another table, unless the first one was
given up. A value and a failure come with the tables `table` and `table'` and with the
namespace `id`. -/
def Parallel (table table' : ReadTable) (id : NamespaceId) (first second : Outcome α) : Prop :=
  match first with
  | value result after =>
      after.table = table ∧ after.current = id ∧
        second = value result { after with table := table' }
  | failed failure after =>
      after.table = table ∧ after.current = id ∧
        second = failed failure { after with table := table' }
  | dangling after => ∃ other, second = dangling { after with table := other }
  | exhausted => True

/-- The outcome with another active table. -/
def setTable (table : ReadTable) : Outcome α → Outcome α
  | value result after => value result { after with table }
  | failed failure after => failed failure { after with table }
  | dangling after => dangling { after with table }
  | exhausted => exhausted

/-- Two outcomes differ in the active table at most, and neither was given up. -/
def Agrees (first second : Outcome α) : Prop :=
  first ≠ .exhausted ∧ second ≠ .exhausted ∧
    ∀ table, first.setTable table = second.setTable table

variable {table table' : ReadTable} {id : NamespaceId}

/-- Parallel steps that go on in parallel are parallel. -/
theorem Parallel.andThen {first second : Outcome α} {next next' : α → Reader → Outcome β}
    (h : first.Parallel table table' id second)
    (hnext : ∀ result mid, mid.table = table → mid.current = id →
      (next result mid).Parallel table table' id (next' result { mid with table := table' })) :
    (first.andThen next).Parallel table table' id (second.andThen next') := by
  cases first with
  | value result mid =>
    obtain ⟨htable, hcurrent, rfl⟩ := h
    exact hnext result mid htable hcurrent
  | failed failure after =>
    obtain ⟨htable, hcurrent, rfl⟩ := h
    exact ⟨htable, hcurrent, rfl⟩
  | dangling after =>
    obtain ⟨other, rfl⟩ := h
    exact ⟨other, rfl⟩
  | exhausted => trivial

theorem Parallel.map {first second : Outcome α} (h : first.Parallel table table' id second)
    (f : α → β) : (first.map f).Parallel table table' id (second.map f) :=
  h.andThen fun _ _ htable hcurrent => ⟨htable, hcurrent, rfl⟩

/-- Parallel outcomes differ in the active table at most, unless the first one was given up. -/
theorem Parallel.setTable_eq {first second : Outcome α}
    (h : first.Parallel table table' id second) (hfirst : first ≠ .exhausted)
    (other : ReadTable) : first.setTable other = second.setTable other := by
  cases first with
  | value result after =>
    obtain ⟨-, -, rfl⟩ := h
    rfl
  | failed failure after =>
    obtain ⟨-, -, rfl⟩ := h
    rfl
  | dangling after =>
    obtain ⟨_, rfl⟩ := h
    rfl
  | exhausted => exact absurd rfl hfirst

end Outcome

namespace Reader

variable {α : Type} {table table' inner inner' : ReadTable}

/-- Parallel steps under other tables are parallel when the tables are set again. -/
theorem parallel_withTable {reader : Reader} {step step' : Reader → Outcome α}
    (h : (step { reader with table := inner }).Parallel inner inner' reader.current
      (step' { reader with table := inner' })) :
    (reader.withTable inner step).Parallel reader.table table' reader.current
      ({ reader with table := table' }.withTable inner' step') := by
  unfold withTable
  cases hstep : step { reader with table := inner } with
  | value result after =>
    rw [hstep] at h
    obtain ⟨-, hcurrent, hsecond⟩ := h
    exact ⟨rfl, hcurrent, by rw [hsecond]; rfl⟩
  | failed failure after =>
    rw [hstep] at h
    obtain ⟨-, hcurrent, hsecond⟩ := h
    exact ⟨rfl, hcurrent, by rw [hsecond]; rfl⟩
  | dangling after =>
    rw [hstep] at h
    obtain ⟨other, hsecond⟩ := h
    exact ⟨other, by rw [hsecond]; rfl⟩
  | exhausted => trivial

/-- A step under another table is parallel to a step without it, when the table is set again. -/
theorem parallel_withTable_left {reader : Reader} {step : Reader → Outcome α} {second : Outcome α}
    (h : (step { reader with table := inner }).Parallel inner table' reader.current second) :
    (reader.withTable inner step).Parallel reader.table table' reader.current second := by
  unfold withTable
  cases hstep : step { reader with table := inner } with
  | value result after =>
    rw [hstep] at h
    exact ⟨rfl, h.2⟩
  | failed failure after =>
    rw [hstep] at h
    exact ⟨rfl, h.2⟩
  | dangling after =>
    rw [hstep] at h
    exact h
  | exhausted => trivial

theorem takeSymbol_parallel {reader : Reader}
    (h : reader.table.ReadsLike stores stores' reader.current table') :
    reader.takeSymbol.Parallel reader.table table' reader.current
      { reader with table := table' }.takeSymbol := by
  unfold takeSymbol
  simp only [← h.continuesToken_eq, ← h.case]
  split
  · exact ⟨rfl, rfl, rfl⟩
  · exact ⟨table', rfl⟩

theorem takeText_parallel (reader : Reader) (quote : Char) (start : Nat) :
    (reader.takeText quote start).Parallel reader.table table' reader.current
      ({ reader with table := table' }.takeText quote start) := by
  unfold takeText
  dsimp only
  split <;> exact ⟨rfl, rfl, rfl⟩

/-- Taking an aliased reference is parallel under tables that fold alike, by registries with the
same aliases of the namespace. -/
theorem takeReference_parallel {reader : Reader} {registry registry' : AliasRegistry}
    (hregistry : registry.table? reader.current = registry'.table? reader.current)
    (hcase : reader.table.case = table'.case) (trigger : Char) (start : Nat) :
    (reader.takeReference registry trigger start).Parallel reader.table table' reader.current
      ({ reader with table := table' }.takeReference registry' trigger start) := by
  unfold takeReference
  simp only [← hcase, ← AliasRegistry.resolveToken?_congr hregistry]
  split
  · split
    · exact ⟨rfl, rfl, rfl⟩
    · exact ⟨table', rfl⟩
  · split
    · exact ⟨rfl, rfl, rfl⟩
    · exact ⟨rfl, rfl, rfl⟩
    · exact ⟨table', rfl⟩

end Reader

/-! ## The simulation

Each step that is read in parallel makes the steps that call it read in parallel. A sentinel that
only delegates makes one call more than the handler that it falls back on. -/

namespace Steps

/-- The second steps under a table follow the first steps under a table that reads alike. -/
structure Simulates (stores stores' : Stores) (first second : Steps) : Prop where
  /-- Forms are read in parallel. -/
  form : ∀ reader (table' : ReadTable),
    reader.table.ReadsLike stores stores' reader.current table' →
    (first.form reader).Parallel reader.table table' reader.current
      (second.form { reader with table := table' })
  /-- The next data are read in parallel. -/
  next : ∀ reader (table' : ReadTable),
    reader.table.ReadsLike stores stores' reader.current table' →
    (first.next reader).Parallel reader.table table' reader.current
      (second.next { reader with table := table' })
  /-- All data are read in parallel. -/
  all : ∀ reader (table' : ReadTable),
    reader.table.ReadsLike stores stores' reader.current table' →
    (first.all reader).Parallel reader.table table' reader.current
      (second.all { reader with table := table' })
  /-- Lists are read in parallel. -/
  items : ∀ start reader (table' : ReadTable),
    reader.table.ReadsLike stores stores' reader.current table' →
    (first.items start reader).Parallel reader.table table' reader.current
      (second.items start { reader with table := table' })

variable {first second : Steps} (h : Simulates stores stores' first second)
  {reader : Reader} {table' : ReadTable}
  (hlike : reader.table.ReadsLike stores stores' reader.current table')

include h hlike

theorem handle_parallel_of_isStandard {handler : Handler} (hstandard : handler.isStandard = true)
    (c : Char) (start : Nat) :
    (handle stores first handler c start reader).Parallel reader.table table' reader.current
      (handle stores' second handler c start { reader with table := table' }) := by
  cases handler <;> simp [Handler.isStandard] at hstandard
  case list => exact (h.items start reader table' hlike).map _
  case close => exact ⟨rfl, rfl, rfl⟩
  case text => exact reader.takeText_parallel c start
  case quote =>
    refine (h.next reader table' hlike).andThen fun result mid htable hcurrent => ?_
    cases result with
    | some datum => exact ⟨htable, hcurrent, rfl⟩
    | none => exact ⟨htable, hcurrent, rfl⟩
  case comment => exact ⟨rfl, rfl, rfl⟩

theorem delegate_parallel {c : Char} (hpeek : reader.peek? = some c)
    {fallback fallback' : ReadTable}
    (hfallback : BindingReadsLike stores stores' reader.current c (fallback.binding? c)
      (fallback'.binding? c)) :
    (first.delegate fallback c reader.advance).Parallel reader.table table' reader.current
      (second.delegate fallback' c { reader with table := table' }.advance) := by
  have hpeek' : Reader.peek? { reader with table := table' } = some c := hpeek
  rw [delegate, delegate, Reader.unread_advance hpeek, Reader.unread_advance hpeek']
  exact Reader.parallel_withTable (h.form
    { reader with table := reader.table.rebindFrom fallback c } _ (hlike.rebindFrom hfallback))

/-- A delegation to the binding of the second table reads in parallel to a form. -/
theorem delegate_parallel_left {c : Char} (hpeek : reader.peek? = some c) {fallback : ReadTable}
    (hfallback : BindingReadsLike stores stores' reader.current c (fallback.binding? c)
      (table'.binding? c)) :
    (first.delegate fallback c reader.advance).Parallel reader.table table' reader.current
      (second.form { reader with table := table' }) := by
  rw [delegate, Reader.unread_advance hpeek]
  exact Reader.parallel_withTable_left (h.form
    { reader with table := reader.table.rebindFrom fallback c } _
    (hlike.rebindFrom_left hfallback))

/-- A form is read in parallel, with one more call on both sides. Where the first table only
delegates, the second side goes without that call. -/
theorem readForm_parallel (hself : Simulates stores stores' first (refine stores' second)) :
    (readForm stores first reader).Parallel reader.table table' reader.current
      (readForm stores' second { reader with table := table' }) := by
  cases hpeek : reader.skipWhitespace.peek? with
  | none =>
    have hsecond : Reader.peek? { reader with table := table' }.skipWhitespace = none := hpeek
    rw [readForm_of_end hpeek, readForm_of_end hsecond]
    exact ⟨rfl, rfl, rfl⟩
  | some c =>
    have hpeek' : Reader.peek? { reader with table := table' }.skipWhitespace = some c := hpeek
    have hskip : reader.skipWhitespace.table.ReadsLike stores stores'
      reader.skipWhitespace.current table' := hlike
    have hbinding := hlike.binding c
    -- the bindings become variables, so that the relation between them can be taken apart
    generalize hfirst : reader.table.binding? c = binding at hbinding
    generalize hsecond : table'.binding? c = binding' at hbinding
    cases hbinding with
    | unbound =>
      rw [readForm_of_unbound hpeek hfirst, readForm_of_unbound hpeek' hsecond]
      exact (Reader.takeSymbol_parallel hskip).map some
    | @standard handler terminating hstandard =>
      rw [readForm_of_bound hpeek hfirst, readForm_of_bound hpeek' hsecond]
      exact @handle_parallel_of_isStandard stores stores' first second h
        reader.skipWhitespace.advance table' hlike _ hstandard c _
    | @aliasing store store' terminating hregistry =>
      rw [readForm_of_bound hpeek hfirst, readForm_of_bound hpeek' hsecond]
      exact @Reader.takeReference_parallel _ reader.skipWhitespace.advance _ _ hregistry
        hlike.case c _
    | @sentinel store store' fallback fallback' terminating hregistry hfallback =>
      rw [readForm_of_bound hpeek hfirst, readForm_of_bound hpeek' hsecond, handle, handle]
      have haliases : (stores store).hasAliases reader.current =
          (stores' store').hasAliases reader.current := AliasRegistry.hasAliases_congr hregistry
      have hfirst : reader.skipWhitespace.advance.current = reader.current := rfl
      have hsecond : Reader.current { reader with table := table' }.skipWhitespace.advance =
          reader.current := rfl
      rw [hfirst, hsecond, ← haliases]
      cases hhas : (stores store).hasAliases reader.current with
      | true =>
        exact @Reader.takeReference_parallel _ reader.skipWhitespace.advance _ _ hregistry
          hlike.case c _
      | false => exact delegate_parallel h hskip hpeek (hfallback hhas)
    | @delegating fallback fallback' terminating hfallback =>
      rw [readForm_of_bound hpeek hfirst, readForm_of_bound hpeek' hsecond]
      exact delegate_parallel h hskip hpeek hfallback
    | @unaliased store fallback binding hunaliased hfallback =>
      have hcurrent : ¬ (stores store).hasAliases reader.skipWhitespace.advance.current = true := by
        rw [Bool.not_eq_true]
        exact hunaliased
      -- the second side reads the form itself, from behind the white space
      have hagain : readForm stores' second { reader with table := table' } =
          (refine stores' second).form { reader.skipWhitespace with table := table' } :=
        readForm_skipWhitespace.symm
      rw [readForm_of_bound hpeek hfirst, handle, if_neg hcurrent, hagain]
      rw [← hsecond] at hfallback
      exact delegate_parallel_left hself hskip hpeek hfallback

theorem readNext_parallel :
    (readNext first reader).Parallel reader.table table' reader.current
      (readNext second { reader with table := table' }) := by
  have hskip : reader.skipWhitespace.table.ReadsLike stores stores'
    reader.skipWhitespace.current table' := hlike
  have hend : Cursor.isAtEnd (Reader.cursor { reader with table := table' }.skipWhitespace) =
      reader.skipWhitespace.cursor.isAtEnd := rfl
  unfold readNext
  simp only [hend]
  split
  · exact ⟨rfl, rfl, rfl⟩
  · refine (h.form reader.skipWhitespace table' hskip).andThen fun result mid htable hcurrent => ?_
    cases result with
    | some datum => exact ⟨htable, hcurrent, rfl⟩
    | none => exact htable ▸ hcurrent ▸ h.next mid table' (htable ▸ hcurrent ▸ hskip)

theorem readAll_parallel :
    (readAll first reader).Parallel reader.table table' reader.current
      (readAll second { reader with table := table' }) := by
  refine (h.next reader table' hlike).andThen fun result mid htable hcurrent => ?_
  cases result with
  | none => exact ⟨htable, hcurrent, rfl⟩
  | some datum =>
    rw [← htable, ← hcurrent]
    exact (h.all mid table' (htable ▸ hcurrent ▸ hlike)).map _

theorem readItems_parallel (start : Nat) :
    (readItems first start reader).Parallel reader.table table' reader.current
      (readItems second start { reader with table := table' }) := by
  have hskip : reader.skipWhitespace.table.ReadsLike stores stores'
    reader.skipWhitespace.current table' := hlike
  have hpeek' : Reader.peek? { reader with table := table' }.skipWhitespace =
      reader.skipWhitespace.peek? := rfl
  unfold readItems
  simp only [hpeek']
  cases hpeek : reader.skipWhitespace.peek? with
  | none => exact ⟨rfl, rfl, rfl⟩
  | some c =>
    simp only
    split
    · exact ⟨rfl, rfl, rfl⟩
    · refine (h.form reader.skipWhitespace table' hskip).andThen
        fun result mid htable hcurrent => ?_
      rw [← htable, ← hcurrent]
      exact (h.items start mid table' (htable ▸ hcurrent ▸ hskip)).map _

omit h hlike in
/-- With at least as many calls, the second steps follow the first ones. -/
theorem simulates_upTo (stores stores' : Stores) {count count' : Nat} (hcount : count ≤ count') :
    Simulates stores stores' (upTo stores count) (upTo stores' count') := by
  -- the second count stays free: a delegation lowers the first one alone
  induction count generalizing count' with
  | zero =>
    exact ⟨fun _ _ _ => trivial, fun _ _ _ => trivial, fun _ _ _ => trivial,
      fun _ _ _ _ => trivial⟩
  | succ count ih =>
    obtain ⟨count', rfl⟩ := Nat.exists_eq_succ_of_ne_zero (by omega : count' ≠ 0)
    have hsteps := ih (Nat.le_of_succ_le_succ hcount)
    have hself : Simulates stores stores' (upTo stores count)
        (refine stores' (upTo stores' count')) := ih (Nat.le_of_succ_le hcount)
    exact ⟨fun reader table' hlike => readForm_parallel hsteps hlike hself,
      fun reader table' hlike => readNext_parallel hsteps hlike,
      fun reader table' hlike => readAll_parallel hsteps hlike,
      fun start reader table' hlike => readItems_parallel hsteps hlike start⟩

end Steps

/-! ## Readings under tables that read alike -/

namespace Reader

/-- Outcomes that go on in parallel to a common one agree. -/
private theorem agrees_of_parallel {α : Type} {table table' : ReadTable}
    {first second common : Outcome α} (hfirst : first.Parallel table table' id common)
    (hsecond : second.Parallel table' table' id common) (hleft : first ≠ .exhausted)
    (hright : second ≠ .exhausted) : first.Agrees second :=
  ⟨hleft, hright, fun other =>
    (hfirst.setTable_eq hleft other).trans (hsecond.setTable_eq hright other).symm⟩

/-- Ordinary tables that read alike in the current namespace read every text alike, form by form,
datum by datum and as a whole. -/
theorem agrees_of_readsLike {reader : Reader} {table' : ReadTable}
    (hlike : reader.table.ReadsLike stores stores' reader.current table')
    (htable : reader.table.Ordinary) (htable' : table'.Ordinary) :
    (reader.readForm stores).Agrees ({ reader with table := table' }.readForm stores') ∧
      (reader.readNext stores).Agrees ({ reader with table := table' }.readNext stores') ∧
      (reader.readAll stores).Agrees ({ reader with table := table' }.readAll stores') := by
  -- the second table with enough calls for both is what both readings are compared to
  have hself : table'.ReadsLike stores' stores' reader.current table' :=
    htable'.readsLike_self fun _ => rfl
  obtain ⟨count, hleft, hright⟩ : ∃ count, reader.allowance ≤ count ∧
      allowance { reader with table := table' } ≤ count :=
    ⟨_, Nat.le_max_left _ _, Nat.le_max_right _ _⟩
  have hfirst := Steps.simulates_upTo stores stores' hleft
  have hsecond := Steps.simulates_upTo stores' stores' hright
  refine ⟨?_, ?_, ?_⟩
  · have hleft := @readForm_ne_exhausted stores reader htable
    have hright := @readForm_ne_exhausted stores' { reader with table := table' } htable'
    unfold readForm at hleft hright ⊢
    exact agrees_of_parallel (hfirst.form reader table' hlike)
      (hsecond.form { reader with table := table' } table' hself) hleft hright
  · have hleft := @readNext_ne_exhausted stores reader htable
    have hright := @readNext_ne_exhausted stores' { reader with table := table' } htable'
    unfold readNext at hleft hright ⊢
    exact agrees_of_parallel (hfirst.next reader table' hlike)
      (hsecond.next { reader with table := table' } table' hself) hleft hright
  · have hleft := @readAll_ne_exhausted stores reader htable
    have hright := @readAll_ne_exhausted stores' { reader with table := table' } htable'
    unfold readAll at hleft hright ⊢
    exact agrees_of_parallel (hfirst.all reader table' hlike)
      (hsecond.all { reader with table := table' } table' hself) hleft hright

end Reader

end AliasReader
