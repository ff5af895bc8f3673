import AliasReader.Proofs.Namespace.SymbolHistory
import AliasReader.Proofs.Reader.Allowance
import AliasReader.Proofs.Reader.Grounded

/-!
# What Reading Touches

A delegation swaps the read table for the length of a form, and plain tokens are interned in the
middle of forms that may fail later. Whatever reading comes to, and however deep inside other forms
it fails, the table and the current namespace are back in place, what remains is what remained, and
the symbol table has gained internal symbols of the current namespace at most.

## Main definitions

* `Reader.Confined`: what may differ between a reader and a later one;
* `Outcome.ConfinedTo`: a step came to a value or a failure and touched nothing else.

## Main results

* `Reader.confined_reading`: reading a form, a datum or all data is confined.
-/

namespace AliasReader

namespace SymbolTable

variable {table : SymbolTable} {id owner : NamespaceId} {name : String} {symbol : SymbolId}

/-- The symbols that interning names makes have these names and are at home where they were
interned. -/
theorem owns_of_internAll (h : table.Reachable) {names : List String}
    (howns : (table.internAll id names).Owns owner name symbol) :
    table.Owns owner name symbol ∨ (owner = id ∧ name ∈ names) := by
  induction names generalizing table with
  | nil => exact Or.inl howns
  | cons first rest ih =>
    have hstep : (table.intern id first).2.Reachable := h.perform (.intern id first)
    rcases ih hstep howns with hmade | ⟨howner, hname⟩
    · rcases (owns_intern h.wellFormed id first).1 hmade with hbefore | ⟨-, howner, hname⟩
      · exact Or.inl hbefore
      · exact Or.inr ⟨howner, List.mem_cons.2 (Or.inl hname)⟩
    · exact Or.inr ⟨howner, List.mem_cons_of_mem first hname⟩

end SymbolTable

namespace Reader

/-- A later reader differs from a reader at most in what was read and in the symbols that were made
by it. -/
structure Confined (before after : Reader) : Prop where
  /-- The active read table is the same. -/
  table : after.table = before.table
  /-- The current namespace is the same. -/
  current : after.current = before.current
  /-- Of the remaining characters some were taken, and none was put in front of them. -/
  remaining : after.cursor.remaining <:+ before.cursor.remaining
  /-- Only internal symbols of the current namespace were added to the symbol table. -/
  host : SymbolTable.GainsInternal before.current before.host after.host
  /-- No symbol that was added has the empty name. -/
  named : ∀ symbol name, before.host.home? symbol = none →
    after.host.symbolName? symbol = some name → name ≠ ""

/-- A reader that goes on from another one, and has interned names only, is confined to it. -/
theorem Continues.confined {before after : Reader} (hcontinues : before.Continues after)
    (hinterned : before.Interned after) (hhost : before.host.Reachable) :
    before.Confined after := by
  refine ⟨hcontinues.table, hcontinues.current, hcontinues.suffix,
    hinterned.gainsInternal hhost, ?_⟩
  intro symbol name hnew hname
  obtain ⟨names, hnames, hafter⟩ := hinterned.host
  rw [hafter] at hname
  obtain ⟨entry, hentry, rfl⟩ := Option.map_eq_some_iff.1 hname
  have howns := (SymbolTable.owns_iff _ entry.home entry.name symbol).2 hentry
  rcases SymbolTable.owns_of_internAll hhost howns with hbefore | ⟨-, hmem⟩
  · -- the symbol would have been there before
    rw [hbefore.1] at hnew
    cases hnew
  · exact hnames entry.name hmem

end Reader

namespace Outcome

variable {α : Type}

/-- A step came to a value or a failure, at a reader that is confined to an earlier one. -/
inductive ConfinedTo (before : Reader) : Outcome α → Prop
  /-- The step has a value. -/
  | value {result : α} {after : Reader} : before.Confined after →
      ConfinedTo before (.value result after)
  /-- The step failed. -/
  | failed {failure : ReadFailure} {after : Reader} : before.Confined after →
      ConfinedTo before (.failed failure after)

/-- A step that goes on, interns names only, meets no handle that names nothing and comes to an end
is confined. -/
theorem confinedTo {reader : Reader} {used : α → Nat} {symbols : α → List SymbolId}
    {outcome : Outcome α} (hhost : reader.host.Reachable) (hleaves : outcome.Leaves reader used)
    (hinterned : outcome.Interned reader) (hgrounded : outcome.Grounded symbols)
    (hends : outcome ≠ .exhausted) : outcome.ConfinedTo reader := by
  rcases outcome with ⟨result, after⟩ | ⟨failure, after⟩ | after | _
  · exact .value (hleaves.1.confined hinterned hhost)
  · exact .failed (Reader.Continues.confined hleaves hinterned hhost)
  · exact hgrounded.elim
  · exact absurd rfl hends

end Outcome

namespace Reader

/-- Reading touches only what it may. With an ordinary table, over any symbol table that was made by
requests and any aliases, a form, a datum and all data are read or fail, and whichever they do, at
whatever depth, the later reader is confined to the earlier one. -/
theorem confined_reading (stores : Stores) {reader : Reader} (htable : reader.table.Ordinary)
    (hhost : reader.host.Reachable) (hcurrent : reader.host.hasNamespace reader.current = true) :
    (reader.readForm stores).ConfinedTo reader ∧ (reader.readNext stores).ConfinedTo reader ∧
      (reader.readAll stores).ConfinedTo reader := by
  have hsound : reader.Sound := ⟨htable, hhost, hcurrent⟩
  have hadvances := Steps.advances_upTo stores reader.allowance
  refine ⟨?_, ?_, ?_⟩
  · exact Outcome.confinedTo hhost (hadvances.form reader htable) (readForm_interned stores htable)
      (readForm_grounded stores hsound) (readForm_ne_exhausted htable)
  · exact Outcome.confinedTo hhost (hadvances.next reader htable) (readNext_interned stores htable)
      (readNext_grounded stores hsound) (readNext_ne_exhausted htable)
  · exact Outcome.confinedTo hhost (hadvances.all reader htable) (readAll_interned stores htable)
      (readAll_grounded stores hsound) (readAll_ne_exhausted htable)

/-- A table whose `$` delegates to a sentinel, which falls back on a quote. -/
def nestedTable : ReadTable :=
  let quoting := ReadTable.standard.bind '$' ⟨.quote, true⟩
  let guarded := ReadTable.standard.installSentinel '$' (some quoting) ⟨0⟩
  ReadTable.standard.bind '$' ⟨.delegating guarded, true⟩

/-- Inside a list that the second fallback table was swapped in for, a text fails to end. The two
plain tokens before it are symbols by then, and the namespace has one symbol from before. -/
theorem confined_reading_nested :
    let reader : Reader := ⟨.ofString "$(a '$(b \"c", nestedTable, Reference.libraryHost, ⟨1⟩⟩
    reader.table.Ordinary ∧ reader.host.Reachable ∧
      reader.host.hasNamespace reader.current = true ∧
      ∃ after, reader.readForm (fun _ => .empty) = .failed (.unterminatedText ⟨9, 11⟩) after ∧
        after.host.symbols.map SymbolEntry.name = ["PUB", "PRIV", "A", "B"] ∧
        reader.Confined after := by
  intro reader
  have hquoting : ReadTable.Ordinary (ReadTable.standard.bind '$' ⟨.quote, true⟩) :=
    DispatchTable.AllHandlers.bind (ReadTable.ordinary_standard .upcase) .quote '$'
  have htable : reader.table.Ordinary :=
    DispatchTable.AllHandlers.bind (ReadTable.ordinary_standard .upcase)
      (.delegating ((ReadTable.ordinary_standard .upcase).installSentinel
        (by rintro _ ⟨⟩; exact hquoting) '$' ⟨0⟩)) '$'
  have hhost : reader.host.Reachable := SymbolTable.Reachable.empty.performAll _
  have hcurrent : reader.host.hasNamespace reader.current = true := by decide
  have hread : (match reader.readForm (fun _ => .empty) with
      | .failed failure after => decide (failure = .unterminatedText ⟨9, 11⟩ ∧
          after.host.symbols.map SymbolEntry.name = ["PUB", "PRIV", "A", "B"])
      | _ => false) = true := by decide +kernel
  obtain ⟨hconfined, -, -⟩ := @confined_reading (fun _ => .empty) reader htable hhost hcurrent
  generalize hform : reader.readForm (fun _ => .empty) = outcome at hread hconfined ⊢
  rcases hconfined with hafter | hafter
  · cases hread
  · obtain ⟨rfl, hsymbols⟩ := of_decide_eq_true hread
    exact ⟨htable, hhost, hcurrent, _, rfl, hsymbols, hafter⟩

end Reader

end AliasReader
