import AliasReader.Proofs.Alias.Visibility
import AliasReader.Proofs.Namespace.Handles
import AliasReader.Proofs.Reader.MadeSymbols

/-!
# Handles Met in Reading

A step of reading asks the symbol table about the current namespace and about the namespaces behind
aliases, and what it reads are handles of symbols. From a sound reader, whose current namespace
exists, no question is about a handle that names nothing, and every symbol that is read is a symbol
of the table that reading leaves.

## Main definitions

* `Reader.Sound`: an ordinary table, a symbol table that was made by requests, and a current
  namespace in it;
* `Outcome.Grounded`: the outcomes whose handles name something.

## Main results

* `Steps.grounded_upTo`: each step is grounded;
* `Reader.readForm_grounded`, `Reader.readNext_grounded` and `Reader.readAll_grounded`: reading is
  grounded.
-/

namespace AliasReader

/-! ## Sound readers -/

namespace Reader

variable {before after : Reader}

/-- A reader has an ordinary table, a symbol table that was made by requests, and a current
namespace in it. -/
structure Sound (reader : Reader) : Prop where
  /-- The table is ordinary. -/
  table : reader.table.Ordinary
  /-- The symbol table was made by requests. -/
  host : reader.host.Reachable
  /-- The current namespace exists. -/
  current : reader.host.hasNamespace reader.current = true

theorem Sound.skipWhitespace (h : before.Sound) : before.skipWhitespace.Sound :=
  ⟨h.table, h.host, h.current⟩

theorem Sound.advance (h : before.Sound) : before.advance.Sound :=
  ⟨h.table, h.host, h.current⟩

/-- The current namespace of a sound reader has a name. -/
theorem Sound.exists_name (h : before.Sound) :
    ∃ name, before.host.name? before.current = some name := by
  obtain ⟨entry, hentry⟩ := (before.host.hasNamespace_iff before.current).1 h.current
  exact ⟨entry.name, Option.map_eq_some_iff.2 ⟨entry, hentry, rfl⟩⟩

/-- Interning adds internal symbols to the current namespace and changes nothing else. -/
theorem Interned.gainsInternal (h : before.Interned after) (hbefore : before.host.Reachable) :
    SymbolTable.GainsInternal before.current before.host after.host := by
  obtain ⟨names, -, hhost⟩ := h.host
  rw [hhost]
  exact SymbolTable.gainsInternal_internAll hbefore before.current names

theorem Interned.reachable (h : before.Interned after) (hbefore : before.host.Reachable) :
    after.host.Reachable := by
  obtain ⟨names, -, hhost⟩ := h.host
  rw [hhost]
  exact hbefore.performAll _

/-- The current namespace exists still. -/
theorem Interned.hasNamespace (h : before.Interned after) (hbefore : before.host.Reachable)
    (hcurrent : before.host.hasNamespace before.current = true) :
    after.host.hasNamespace after.current = true := by
  rw [h.current]
  exact SymbolTable.hasNamespace_of_length_le
    (Nat.le_of_eq (h.gainsInternal hbefore).length.symm) hcurrent

/-- A reader that goes on from a sound one, and has interned names only, is sound. -/
theorem Sound.of_interned (h : before.Sound) (hcontinues : before.Continues after)
    (hinterned : before.Interned after) : after.Sound :=
  ⟨hcontinues.table ▸ h.table, hinterned.reachable h.host,
    hinterned.hasNamespace h.host h.current⟩

end Reader

/-! ## Grounded outcomes -/

namespace Outcome

variable {α β : Type}

/-- No handle that a step met names nothing: the current namespace was found, and the symbols of a
value are symbols of the table that the step leaves. -/
def Grounded (symbols : α → List SymbolId) : Outcome α → Prop
  | value result after => ∀ symbol ∈ symbols result, after.host.hasSymbol symbol = true
  | failed _ _ => True
  | dangling _ => False
  | exhausted => True

theorem Grounded.andThen {symbols : α → List SymbolId} {symbols' : β → List SymbolId}
    {outcome : Outcome α} {next : α → Reader → Outcome β} (h : outcome.Grounded symbols)
    (hnext : ∀ result mid, outcome = .value result mid →
      (∀ symbol ∈ symbols result, mid.host.hasSymbol symbol = true) →
      (next result mid).Grounded symbols') : (outcome.andThen next).Grounded symbols' := by
  rcases outcome with ⟨result, mid⟩ | ⟨failure, after⟩ | after | _
  · exact hnext result mid rfl h
  · trivial
  · exact h
  · trivial

/-- A value may be changed to one with the same symbols. -/
theorem Grounded.map {symbols : α → List SymbolId} {symbols' : β → List SymbolId}
    {outcome : Outcome α} (h : outcome.Grounded symbols) {f : α → β}
    (hf : ∀ result, symbols' (f result) = symbols result) :
    (outcome.map f).Grounded symbols' := by
  apply h.andThen
  intro result mid _ hresult
  show ∀ symbol ∈ symbols' (f result), _
  rw [hf]
  exact hresult

/-- Data that were read before are still grounded behind the data that are read next. -/
theorem Grounded.map_append {mid : Reader} (hmid : mid.host.Reachable)
    {outcome : Outcome (List (Datum SymbolId))} (h : outcome.Grounded Datum.symbolsOfItems)
    (hinterned : outcome.Interned mid) {items : List (Datum SymbolId)}
    (hitems : ∀ symbol ∈ Datum.symbolsOfItems items, mid.host.hasSymbol symbol = true) :
    (outcome.map (items ++ ·)).Grounded Datum.symbolsOfItems := by
  apply h.andThen
  rintro result after rfl hresult symbol hsymbol
  rw [Datum.symbolsOfItems_append] at hsymbol
  rcases List.mem_append.1 hsymbol with hsymbol | hsymbol
  · exact (Reader.Interned.gainsInternal hinterned hmid).hasSymbol (hitems symbol hsymbol)
  · exact hresult symbol hsymbol

end Outcome

namespace Reader

/-- The symbols of a datum that may be missing. -/
def symbolsOf (item : Option (Datum SymbolId)) : List SymbolId :=
  Datum.symbolsOfItems item.toList

theorem grounded_withTable {reader : Reader} {table : ReadTable}
    {step : Reader → Outcome (Option (Datum SymbolId))}
    (h : (step { reader with table }).Grounded symbolsOf) :
    (reader.withTable table step).Grounded symbolsOf := by
  unfold withTable
  rcases hstep : step { reader with table } with ⟨result, after⟩ | ⟨failure, after⟩ | after | _
  · rw [hstep] at h
    exact h
  · trivial
  · rw [hstep] at h
    exact h
  · trivial

/-! ## Steps that call no other step -/

section Leaves

variable {reader : Reader} (h : reader.Sound)

include h

/-- A plain token is a symbol of the table from then on. -/
theorem takeSymbol_grounded : (reader.takeSymbol.map some).Grounded symbolsOf := by
  unfold takeSymbol
  dsimp only
  generalize reader.table.case.fold _ = name
  obtain ⟨symbol, hsymbol, -⟩ := SymbolTable.intern_spec h.current name
  rcases hintern : reader.host.intern reader.current name with ⟨found, host⟩
  rw [hintern] at hsymbol
  obtain rfl : found = some symbol := hsymbol
  intro other hother
  obtain rfl : other = symbol := by
    simpa [symbolsOf, Datum.symbolsOfItems, Datum.symbols] using hother
  exact decide_eq_true (SymbolTable.index_lt_of_intern h.host.wellFormed hintern)

omit h in
theorem takeText_grounded (reader : Reader) (quote : Char) (start : Nat) :
    (reader.takeText quote start).Grounded symbolsOf := by
  unfold takeText
  split
  · rintro symbol ⟨⟩
  · trivial

/-- The name of the current namespace is there to be told, and a reference that is resolved names a
symbol that has a home. -/
theorem takeReference_grounded (registry : AliasRegistry) (trigger : Char) (start : Nat) :
    (reader.takeReference registry trigger start).Grounded symbolsOf := by
  obtain ⟨name, hname⟩ := h.exists_name
  unfold takeReference
  rcases AliasToken.take reader.cursor with ⟨token, cursor⟩
  dsimp only
  rcases token.fold reader.table.case with cause | folded
  · -- the token cannot be folded, which is told with the name of the current namespace
    simp only [hname]
    trivial
  · obtain ⟨verdict, hverdict⟩ :=
      Reference.exists_verdict h.host.wellFormed registry reader.current folded
    simp only [hverdict.resolveToken?_eq h.host.wellFormed hname]
    rcases verdict with cause | symbol
    · trivial
    · obtain ⟨_, _, -, hhome, -⟩ := Reference.verdict_ok_iff.1 hverdict
      intro other hother
      obtain rfl : other = symbol := by
        simpa [symbolsOf, Datum.symbolsOfItems, Datum.symbols] using hother
      exact SymbolTable.hasSymbol_of_home? hhome

end Leaves

end Reader

/-! ## Steps that call each other -/

namespace Steps

open Reader (symbolsOf)

variable {stores : Stores} {steps : Steps}

/-- The steps are grounded, from every sound reader. -/
structure Grounded (steps : Steps) : Prop where
  /-- A form is grounded. -/
  form : ∀ reader : Reader, reader.Sound → (steps.form reader).Grounded symbolsOf
  /-- A datum is grounded. -/
  next : ∀ reader : Reader, reader.Sound → (steps.next reader).Grounded symbolsOf
  /-- All data are grounded. -/
  all : ∀ reader : Reader, reader.Sound → (steps.all reader).Grounded Datum.symbolsOfItems
  /-- The items of a list are grounded. -/
  items : ∀ start (reader : Reader), reader.Sound →
    (steps.items start reader).Grounded Datum.symbolsOfItems

variable (h : steps.Grounded) {reader : Reader} (hreader : reader.Sound)

include h hreader

theorem delegate_grounded {fallback : ReadTable} (hfallback : fallback.Ordinary) {c : Char}
    (hpeek : reader.peek? = some c) :
    (steps.delegate fallback c reader.advance).Grounded symbolsOf := by
  -- the table of the delegation is ordinary again; symbols and namespace are not touched by it
  rw [delegate, Reader.unread_advance hpeek]
  apply Reader.grounded_withTable
  exact h.form _ ⟨hreader.table.rebindFrom hfallback c, hreader.host, hreader.current⟩

theorem handle_grounded {handler : Handler} (hhandler : handler.Ordinary) {c : Char}
    (hpeek : reader.peek? = some c) (start : Nat) :
    (handle stores steps handler c start reader.advance).Grounded symbolsOf := by
  have hadvance := hreader.advance
  cases hhandler with
  | list =>
    apply (h.items start reader.advance hadvance).map
    intro items
    simp [symbolsOf, Datum.symbolsOfItems, Datum.symbols]
  | close => trivial
  | text => exact reader.advance.takeText_grounded c start
  | quote =>
    refine (h.next reader.advance hadvance).andThen ?_
    intro result mid _ hresult
    rcases result with _ | datum
    · trivial
    · exact hresult
  | comment => rintro symbol ⟨⟩
  | aliasing store => exact Reader.takeReference_grounded hadvance _ c start
  | sentinel store hfallback =>
    rw [handle]
    split
    · exact Reader.takeReference_grounded hadvance _ c start
    · exact delegate_grounded h hreader hfallback hpeek
  | delegating hfallback => exact delegate_grounded h hreader hfallback hpeek

theorem readForm_grounded : (readForm stores steps reader).Grounded symbolsOf := by
  have hskip := hreader.skipWhitespace
  rcases hpeek : reader.skipWhitespace.peek? with _ | c
  · rw [readForm_of_end hpeek]
    rintro symbol ⟨⟩
  · rcases hbinding : reader.table.binding? c with _ | binding
    · rw [readForm_of_unbound hpeek hbinding]
      exact Reader.takeSymbol_grounded hskip
    · rw [readForm_of_bound hpeek hbinding]
      exact handle_grounded h hskip (hreader.table c binding hbinding) hpeek _

variable (hadvances : steps.Advances) (hinterns : steps.Interns)

include hadvances hinterns

omit h in
/-- A reader behind a form is sound again. -/
theorem sound_of_form {result : Option (Datum SymbolId)} {mid : Reader}
    (hvalue : steps.form reader = .value result mid) : mid.Sound := by
  have hadvanced := hadvances.form reader hreader.table
  have hinterned := hinterns.form reader hreader.table
  rw [hvalue] at hadvanced hinterned
  exact hreader.of_interned hadvanced.1 hinterned

theorem readNext_grounded : (readNext steps reader).Grounded symbolsOf := by
  have hskip := hreader.skipWhitespace
  unfold readNext
  dsimp only
  split
  · rintro symbol ⟨⟩
  · refine (h.form _ hskip).andThen ?_
    intro result mid hvalue hresult
    rcases result with _ | datum
    · exact h.next mid (sound_of_form hskip hadvances hinterns hvalue)
    · exact hresult

theorem readAll_grounded : (readAll steps reader).Grounded Datum.symbolsOfItems := by
  have hadvanced := hadvances.next reader hreader.table
  have hinterned := hinterns.next reader hreader.table
  unfold readAll
  refine (h.next reader hreader).andThen ?_
  intro result mid hvalue hresult
  rw [hvalue] at hadvanced hinterned
  have hmid : mid.Sound := hreader.of_interned hadvanced.1 hinterned
  rcases result with _ | datum
  · rintro symbol ⟨⟩
  · exact (h.all mid hmid).map_append hmid.host (hinterns.all mid hmid.table) hresult

theorem readItems_grounded (start : Nat) :
    (readItems steps start reader).Grounded Datum.symbolsOfItems := by
  have hskip := hreader.skipWhitespace
  unfold readItems
  dsimp only
  split
  · trivial
  · split
    · rintro symbol ⟨⟩
    · refine (h.form _ hskip).andThen ?_
      intro item mid hvalue hitem
      have hmid := sound_of_form hskip hadvances hinterns hvalue
      exact (h.items start mid hmid).map_append hmid.host (hinterns.items start mid hmid.table) hitem

omit h hreader hadvances hinterns in
/-- However many calls are allowed inside each other, the steps are grounded. -/
theorem grounded_upTo (stores : Stores) (count : Nat) : (upTo stores count).Grounded := by
  -- by induction on the calls; the readers in between are sound by what the calls intern
  induction count with
  | zero => exact ⟨fun _ _ => trivial, fun _ _ => trivial, fun _ _ => trivial, fun _ _ _ => trivial⟩
  | succ count ih =>
    have hadvances := advances_upTo stores count
    have hinterns := interns_upTo stores count
    exact ⟨fun _ hreader => readForm_grounded ih hreader,
      fun _ hreader => readNext_grounded ih hreader hadvances hinterns,
      fun _ hreader => readAll_grounded ih hreader hadvances hinterns,
      fun start _ hreader => readItems_grounded ih hreader hadvances hinterns start⟩

end Steps

namespace Reader

variable (stores : Stores) {reader : Reader} (h : reader.Sound)

include h

/-- From a sound reader, reading a form meets no handle that names nothing. -/
theorem readForm_grounded : (reader.readForm stores).Grounded symbolsOf :=
  (Steps.grounded_upTo stores reader.allowance).form reader h

theorem readNext_grounded : (reader.readNext stores).Grounded symbolsOf :=
  (Steps.grounded_upTo stores reader.allowance).next reader h

theorem readAll_grounded : (reader.readAll stores).Grounded Datum.symbolsOfItems :=
  (Steps.grounded_upTo stores reader.allowance).all reader h

end Reader

end AliasReader
