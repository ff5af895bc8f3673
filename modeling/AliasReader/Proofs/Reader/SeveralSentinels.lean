import AliasReader.Proofs.Alias.Visibility
import AliasReader.Proofs.Reader.Simulation
import Mathlib.Data.List.Induction

/-!
# Several Sentinels

Each installation of a sentinel keeps the table as it is as the one to fall back on, so the tables
that two orders of installation make hold different handlers, and a sentinel that is installed twice
falls back on itself. No reading tells them apart: what counts is which characters are sentinels,
not how often and in which order they were made so.

Both orders are compared with a third table, in which every sentinel falls back on the table from
before the first installation.

## Main definitions

* `ReadTable.Indistinguishable`: two tables under which every text is read alike;
* `ReadTable.installAll`: sentinels over one registry, installed one after the other.

## Main results

* `ReadTable.indistinguishable_installAll`: only the set of triggers counts;
* `ReadTable.indistinguishable_installSentinel`: two installations commute, and a repeated one
  changes nothing.
-/

namespace AliasReader

namespace Outcome

variable {α : Type} {first second third : Outcome α}

theorem Agrees.symm (h : first.Agrees second) : second.Agrees first :=
  ⟨h.2.1, h.1, fun table => (h.2.2 table).symm⟩

theorem Agrees.trans (h : first.Agrees second) (h' : second.Agrees third) : first.Agrees third :=
  ⟨h.1, h'.2.1, fun table => (h.2.2 table).trans (h'.2.2 table)⟩

end Outcome

namespace ReadTable

/-! ## Tables that cannot be told apart -/

/-- Whatever text is read, in whatever namespace of whatever symbol table, both tables lead to the
same data or to the same failure at the same place, with the same symbol table and the same
characters left. -/
structure Indistinguishable (stores : Stores) (table table' : ReadTable) : Prop where
  /-- Forms are read alike. -/
  form : ∀ reader : Reader, ({ reader with table }.readForm stores).Agrees
    ({ reader with table := table' }.readForm stores)
  /-- The next data are read alike. -/
  next : ∀ reader : Reader, ({ reader with table }.readNext stores).Agrees
    ({ reader with table := table' }.readNext stores)
  /-- All data are read alike. -/
  all : ∀ reader : Reader, ({ reader with table }.readAll stores).Agrees
    ({ reader with table := table' }.readAll stores)

variable {stores : Stores} {table table' table'' : ReadTable}

/-- Ordinary tables that read alike in every namespace are indistinguishable. -/
theorem indistinguishable_of_readsLike (hlike : ∀ id, table.ReadsLike stores stores id table')
    (htable : table.Ordinary) (htable' : table'.Ordinary) :
    Indistinguishable stores table table' := by
  have hagrees := fun reader : Reader =>
    @Reader.agrees_of_readsLike stores stores { reader with table } table' (hlike reader.current)
      htable htable'
  exact ⟨fun reader => (hagrees reader).1, fun reader => (hagrees reader).2.1,
    fun reader => (hagrees reader).2.2⟩

theorem Indistinguishable.symm (h : Indistinguishable stores table table') :
    Indistinguishable stores table' table :=
  ⟨fun reader => (h.form reader).symm, fun reader => (h.next reader).symm,
    fun reader => (h.all reader).symm⟩

theorem Indistinguishable.trans (h : Indistinguishable stores table table')
    (h' : Indistinguishable stores table' table'') : Indistinguishable stores table table'' :=
  ⟨fun reader => (h.form reader).trans (h'.form reader),
    fun reader => (h.next reader).trans (h'.next reader),
    fun reader => (h.all reader).trans (h'.all reader)⟩

/-! ## Sentinels one after the other -/

/-- Install sentinels over one registry, one after the other. With no fallback table each of them
falls back on the table as it is by then. -/
def installAll (table : ReadTable) (triggers : List Char) (fallback : Option ReadTable)
    (store : StoreId) : ReadTable :=
  triggers.foldl (fun installed trigger => installed.installSentinel trigger fallback store) table

theorem installAll_concat (table : ReadTable) (triggers : List Char) (last : Char)
    (fallback : Option ReadTable) (store : StoreId) :
    table.installAll (triggers ++ [last]) fallback store =
      (table.installAll triggers fallback store).installSentinel last fallback store := by
  rw [installAll, List.foldl_append]
  rfl

theorem case_installAll (table : ReadTable) (triggers : List Char) (fallback : Option ReadTable)
    (store : StoreId) : (table.installAll triggers fallback store).case = table.case := by
  induction triggers using List.reverseRecOn with
  | nil => rfl
  | append_singleton triggers last ih =>
    rw [installAll_concat]
    exact ih

theorem Ordinary.installAll (htable : table.Ordinary) {fallback : Option ReadTable}
    (hfallback : ∀ other ∈ fallback, ReadTable.Ordinary other) (triggers : List Char)
    (store : StoreId) : Ordinary (table.installAll triggers fallback store) := by
  induction triggers using List.reverseRecOn with
  | nil => exact htable
  | append_singleton triggers last ih =>
    rw [installAll_concat]
    exact ih.installSentinel hfallback last store

/-- After an installation the trigger is bound to the sentinel and every other character as
before. -/
theorem binding?_installSentinel (table : ReadTable) (trigger : Char) (fallback : Option ReadTable)
    (store : StoreId) (c : Char) :
    (table.installSentinel trigger fallback store).binding? c =
      if c = trigger then
        some ⟨.sentinel store (fallback.getD table), (fallback.getD table).isTerminating trigger⟩
      else table.binding? c :=
  DispatchTable.binding?_bind table trigger c _

/-- A character that is no trigger is bound as before. -/
theorem binding?_installAll_of_notMem {triggers : List Char} {c : Char} (h : c ∉ triggers)
    (table : ReadTable) (fallback : Option ReadTable) (store : StoreId) :
    (table.installAll triggers fallback store).binding? c = table.binding? c := by
  induction triggers using List.reverseRecOn with
  | nil => rfl
  | append_singleton triggers last ih =>
    rw [List.mem_append, List.mem_singleton, not_or] at h
    rw [installAll_concat, binding?_installSentinel, if_neg h.2, ih h.1]

/-- With a fallback table each trigger is bound to a sentinel that falls back on it. -/
theorem binding?_installAll_some_of_mem {triggers : List Char} {c : Char} (h : c ∈ triggers)
    (table fallback : ReadTable) (store : StoreId) :
    (table.installAll triggers (some fallback) store).binding? c =
      some ⟨.sentinel store fallback, fallback.isTerminating c⟩ := by
  induction triggers using List.reverseRecOn with
  | nil => exact absurd h List.not_mem_nil
  | append_singleton triggers last ih =>
    rw [installAll_concat, binding?_installSentinel]
    by_cases hlast : c = last
    · subst hlast
      rw [if_pos rfl]
      rfl
    · rw [if_neg hlast]
      exact ih (by simpa [hlast] using h)

/-- Without a fallback table the same characters end tokens as before. -/
theorem isTerminating_installAll_none (table : ReadTable) (triggers : List Char) (store : StoreId)
    (c : Char) :
    (table.installAll triggers none store).isTerminating c = table.isTerminating c := by
  induction triggers using List.reverseRecOn with
  | nil => rfl
  | append_singleton triggers last ih =>
    rw [installAll_concat, DispatchTable.isTerminating, binding?_installSentinel]
    split
    next h =>
      subst h
      exact ih
    next => exact ih

/-- Without a fallback table each trigger is bound to a sentinel, and ends tokens as before. Where
there are no aliases it comes back, through as many sentinels as were installed at it, to the binding
from before. -/
theorem binding?_installAll_none_of_mem {triggers : List Char} {c : Char} (h : c ∈ triggers)
    (htable : table.Ordinary) (id : NamespaceId) (store : StoreId) :
    ∃ fallback : ReadTable,
      (table.installAll triggers none store).binding? c =
        some ⟨.sentinel store fallback, table.isTerminating c⟩ ∧
      fallback.isTerminating c = table.isTerminating c ∧
      ((stores store).hasAliases id = false →
        BindingReadsLike stores stores id c (fallback.binding? c) (table.binding? c)) := by
  induction triggers using List.reverseRecOn with
  | nil => exact absurd h List.not_mem_nil
  | append_singleton triggers last ih =>
    have hends := isTerminating_installAll_none table triggers store c
    rw [installAll_concat, binding?_installSentinel]
    by_cases hlast : c = last
    · -- the new sentinel falls back on all that was installed before
      subst hlast
      rw [if_pos rfl, ← hends]
      refine ⟨table.installAll triggers none store, rfl, rfl, fun hnone => ?_⟩
      by_cases hfront : c ∈ triggers
      · -- one sentinel more to come back through
        obtain ⟨fallback, hbinding, hflag, hunaliased⟩ := ih hfront
        rw [hbinding, ← hflag]
        exact .unaliased hnone (hunaliased hnone)
      · rw [binding?_installAll_of_notMem hfront]
        exact htable.binding_readsLike_self (fun _ => rfl) c
    · rw [if_neg hlast]
      exact ih (by simpa [hlast] using h)

/-- Sentinels that were installed one after the other read like sentinels at the same characters
that all fall back on the table from before. -/
theorem readsLike_installAll {triggers triggers' : List Char}
    (hsame : ∀ c, c ∈ triggers ↔ c ∈ triggers') (htable : table.Ordinary) (id : NamespaceId)
    (store : StoreId) :
    ReadsLike stores stores id (table.installAll triggers none store)
      (table.installAll triggers' (some table) store) := by
  refine ⟨?_, fun c => ?_⟩
  · rw [case_installAll, case_installAll]
  · by_cases h : c ∈ triggers
    · obtain ⟨fallback, hbinding, -, hunaliased⟩ :=
        @binding?_installAll_none_of_mem stores table _ _ h htable id store
      rw [hbinding, binding?_installAll_some_of_mem ((hsame c).1 h)]
      exact .sentinel _ rfl hunaliased
    · rw [binding?_installAll_of_notMem h, binding?_installAll_of_notMem (mt (hsame c).2 h)]
      exact htable.binding_readsLike_self (fun _ => rfl) c

/-- Neither the order in which sentinels were installed nor the number of installations at one
character can be told from what is read. -/
theorem indistinguishable_installAll (stores : Stores) (htable : table.Ordinary)
    {triggers triggers' : List Char} (hsame : ∀ c, c ∈ triggers ↔ c ∈ triggers')
    (store : StoreId) :
    Indistinguishable stores (table.installAll triggers none store)
      (table.installAll triggers' none store) := by
  have hnone : ∀ other ∈ (none : Option ReadTable), ReadTable.Ordinary other := by rintro _ ⟨⟩
  have hbase : ∀ other ∈ some table, ReadTable.Ordinary other := by
    rintro _ ⟨⟩
    exact htable
  -- what all sentinels falling back on the first table make depends on the set of triggers only
  have hcommon := htable.installAll hbase triggers' store
  have hfirst := indistinguishable_of_readsLike
    (fun id => @readsLike_installAll stores table _ _ hsame htable id store)
    (htable.installAll hnone triggers store) hcommon
  have hsecond := indistinguishable_of_readsLike
    (fun id => @readsLike_installAll stores table triggers' _ (fun _ => Iff.rfl) htable id store)
    (htable.installAll hnone triggers' store) hcommon
  exact hfirst.trans hsecond.symm

/-- Installations of sentinels commute, and repeating one changes nothing: the two orders for two
triggers read every text alike, and so do two installations for one trigger and a single one. -/
theorem indistinguishable_installSentinel (stores : Stores) (htable : table.Ordinary)
    (store : StoreId) (c d : Char) :
    Indistinguishable stores ((table.installSentinel c none store).installSentinel d none store)
        ((table.installSentinel d none store).installSentinel c none store) ∧
      Indistinguishable stores ((table.installSentinel c none store).installSentinel c none store)
        (table.installSentinel c none store) := by
  have hcommute := @indistinguishable_installAll table stores htable [c, d] [d, c]
    (fun _ => List.Perm.mem_iff (List.Perm.swap d c [])) store
  have htwice := @indistinguishable_installAll table stores htable [c, c] [c]
    (by simp) store
  exact ⟨hcommute, htwice⟩

/-- The triggers are `$`, which is unbound, and the quote, which is not. In the library's user
namespace `$` and the quote start references; in the library itself they do not. -/
theorem indistinguishable_installSentinel_quote :
    let aliases : Stores := fun _ => Reference.libraryAliases
    let single (trigger : Char) := standard.installSentinel trigger none ⟨0⟩
    standard.Ordinary ∧
      Indistinguishable aliases ((single '$').installSentinel '\'' none ⟨0⟩)
        ((single '\'').installSentinel '$' none ⟨0⟩) ∧
      Indistinguishable aliases ((single '$').installSentinel '$' none ⟨0⟩) (single '$') := by
  intro aliases single
  have htable : standard.Ordinary := ordinary_standard .upcase
  obtain ⟨hcommute, htwice⟩ :=
    @indistinguishable_installSentinel standard aliases htable ⟨0⟩ '$' '\''
  exact ⟨htable, hcommute, htwice⟩

end ReadTable

end AliasReader
