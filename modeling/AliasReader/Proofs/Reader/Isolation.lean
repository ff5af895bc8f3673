import AliasReader.Proofs.Alias.Visibility
import AliasReader.Proofs.Reader.Simulation

/-!
# Aliases of Other Namespaces

A sentinel looks aliases up in the table of the current namespace, and an ordinary handler never
changes which namespace that is. Two readers whose sentinels are over registries with the same
aliases of the current namespace therefore read every text alike, whatever the registries hold for
other namespaces. In particular the aliases of the namespace behind an alias are not followed.

## Main results

* `ReadTable.readsLike_installSentinel_of_table?_eq`: two sentinels over the same aliases of a
  namespace read alike there;
* `Reader.agrees_otherAliases`: readings with the two sentinels agree.
-/

namespace AliasReader

variable {stores stores' : Stores} {id : NamespaceId} {store store' : StoreId}

/-- Sentinels that are installed in one table over registries with the same aliases of a namespace
read alike in that namespace. The sentinels that the table has already may be over other
registries of this kind as well. -/
theorem ReadTable.readsLike_installSentinel_of_table?_eq
    (hown : (stores store).table? id = (stores' store').table? id)
    (hstores : ∀ other, (stores other).table? id = (stores' other).table? id)
    {table : ReadTable} (htable : table.Ordinary) {fallback : Option ReadTable}
    (hfallback : ∀ other ∈ fallback, ReadTable.Ordinary other) (trigger : Char) :
    ReadTable.ReadsLike stores stores' id (table.installSentinel trigger fallback store)
      (table.installSentinel trigger fallback store') := by
  refine ⟨rfl, fun c => ?_⟩
  rw [installSentinel, installSentinel, DispatchTable.binding?_bind, DispatchTable.binding?_bind]
  split
  -- at the trigger both sentinels fall back on one ordinary table
  next => exact .sentinel _ hown fun _ =>
    (htable.getD hfallback).binding_readsLike_self hstores c
  -- elsewhere the handlers are the same, over registries that agree in the namespace
  next => exact htable.binding_readsLike_self hstores c

namespace Reader

/-- The aliases of other namespaces never influence reading. With the same aliases of the current
namespace, every form, every datum and every text is read alike: to the same data, or with the same
failure at the same place, with the same symbol table and the same characters left. -/
theorem agrees_otherAliases (reader : Reader)
    (hown : (stores store).table? reader.current = (stores' store').table? reader.current)
    (hstores : ∀ other, (stores other).table? reader.current =
      (stores' other).table? reader.current)
    {table : ReadTable} (htable : table.Ordinary) {fallback : Option ReadTable}
    (hfallback : ∀ other ∈ fallback, ReadTable.Ordinary other) (trigger : Char) :
    let first := { reader with table := table.installSentinel trigger fallback store }
    let second := { reader with table := table.installSentinel trigger fallback store' }
    (first.readForm stores).Agrees (second.readForm stores') ∧
      (first.readNext stores).Agrees (second.readNext stores') ∧
      (first.readAll stores).Agrees (second.readAll stores') :=
  @agrees_of_readsLike _ _ { reader with table := table.installSentinel trigger fallback store } _
    (ReadTable.readsLike_installSentinel_of_table?_eq hown hstores htable hfallback trigger)
    (htable.installSentinel hfallback trigger store)
    (htable.installSentinel hfallback trigger store')

/-- The library behind an alias has aliases of its own in the second registry only, and among them
the alias itself for another namespace. -/
theorem agrees_otherAliases_library :
    let aliases : Stores := fun
      | ⟨0⟩ => Reference.libraryAliases
      | _ => Reference.libraryAliases.set ⟨0⟩ [(.named "USER", "L"), (.named "LIB", "M")]
    let reader (store : StoreId) : Reader :=
      ⟨.ofString "$L:PUB ($M:PUB x)", ReadTable.standard.installSentinel '$' none store,
        Reference.libraryHost, ⟨1⟩⟩
    (aliases ⟨0⟩).table? ⟨0⟩ ≠ (aliases ⟨1⟩).table? ⟨0⟩ ∧
      (aliases ⟨0⟩).table? ⟨1⟩ = (aliases ⟨1⟩).table? ⟨1⟩ ∧
      ReadTable.standard.Ordinary ∧
      ((reader ⟨0⟩).readForm aliases).Agrees ((reader ⟨1⟩).readForm aliases) ∧
      ((reader ⟨0⟩).readNext aliases).Agrees ((reader ⟨1⟩).readNext aliases) ∧
      ((reader ⟨0⟩).readAll aliases).Agrees ((reader ⟨1⟩).readAll aliases) := by
  intro aliases reader
  have hother : (aliases ⟨0⟩).table? ⟨0⟩ ≠ (aliases ⟨1⟩).table? ⟨0⟩ := by decide
  have hown : (aliases ⟨0⟩).table? ⟨1⟩ = (aliases ⟨1⟩).table? ⟨1⟩ := by decide
  have htable : ReadTable.standard.Ordinary := ReadTable.ordinary_standard .upcase
  exact ⟨hother, hown, htable,
    agrees_otherAliases (reader ⟨0⟩) hown (fun _ => rfl) htable (by rintro _ ⟨⟩) '$'⟩

end Reader

end AliasReader
