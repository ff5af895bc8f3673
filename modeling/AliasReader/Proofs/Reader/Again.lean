import AliasReader.Proofs.Alias.Persistence

/-!
# Reading Again

A text that was read once is read to the same data again. The first reading makes symbols while it
goes on, and an aliased reference in the text may name a symbol that the same text made before. The
second reading finds all of them made from the start. It meets the same bindings none the less:
between a step of the first reading and the end of it names are interned only, so what a token was
bound to, and what a reference named, is what they lead to at the end.

## Main definitions

* `SymbolTable.GrowsTo`: a later table was made by requests other than renamings;
* `Outcome.Recurs`: what a step came to, it comes to again in every such table, and leaves it.

## Main results

* `Steps.recurs_upTo`: each step that has a value recurs;
* `Reader.readAll_later`: data are read again in every later symbol table;
* `Reader.readAll_again`: data are read again in the symbol table that reading them left.
-/

namespace AliasReader

/-! ## Later symbol tables -/

namespace SymbolTable

variable {table mid later : SymbolTable} {id : NamespaceId} {name : String} {symbol : SymbolId}

/-- A later table was made from a table by requests, none of which renames a namespace. -/
def GrowsTo (table later : SymbolTable) : Prop :=
  ∃ requests : List Request, (∀ asked ∈ requests, asked.renames = false) ∧
    later = table.performAll requests

theorem GrowsTo.refl (table : SymbolTable) : table.GrowsTo table :=
  ⟨[], fun _ hasked => absurd hasked List.not_mem_nil, rfl⟩

theorem GrowsTo.trans (h : table.GrowsTo mid) (h' : mid.GrowsTo later) : table.GrowsTo later := by
  obtain ⟨requests, hrequests, rfl⟩ := h
  obtain ⟨others, hothers, rfl⟩ := h'
  refine ⟨requests ++ others, ?_, by simp [performAll, List.foldl_append]⟩
  intro asked hasked
  rcases List.mem_append.1 hasked with hasked | hasked
  · exact hrequests asked hasked
  · exact hothers asked hasked

theorem GrowsTo.reachable (h : table.GrowsTo later) (htable : table.Reachable) :
    later.Reachable := by
  obtain ⟨requests, -, rfl⟩ := h
  exact htable.performAll requests

/-- Interning names is a course of requests. -/
theorem growsTo_internAll (table : SymbolTable) (id : NamespaceId) (names : List String) :
    table.GrowsTo (table.internAll id names) := by
  refine ⟨names.map (.intern id), fun asked hasked => ?_, rfl⟩
  obtain ⟨name, -, rfl⟩ := List.mem_map.1 hasked
  rfl

/-- A symbol is owned in every later table. -/
theorem GrowsTo.owns (h : table.GrowsTo later) (htable : table.Reachable)
    (howns : table.Owns id name symbol) : later.Owns id name symbol := by
  obtain ⟨requests, -, rfl⟩ := h
  exact htable.owns_performAll howns requests

/-- A text that was given as a name before is not noted again. -/
theorem noteNames_of_mem {table : SymbolTable} {name : String} (h : name ∈ table.texts.texts) :
    table.noteNames [name] = table := by
  cases hget : table.texts.get? name with
  | none => exact absurd h ((table.texts.get?_eq_none_iff name).1 hget)
  | some handle =>
    have htexts : table.texts.internAll [name] = table.texts := by
      rw [Interner.internAll, List.foldl_cons, List.foldl_nil, Interner.intern_of_get? hget]
    rw [noteNames, htexts]

/-- Interning the name of a symbol gives the symbol and leaves the table. -/
theorem intern_of_owns (htable : table.Reachable) (howns : table.Owns id name symbol) :
    table.intern id name = (some symbol, table) := by
  have hformed := htable.wellFormed
  -- the name was noted when the symbol was made
  have hnoted : name ∈ table.texts.texts :=
    hformed.interned ⟨name, id⟩ (List.mem_of_getElem? ((table.owns_iff id name symbol).1 howns))
  rw [intern_of_binds ((hformed.binds_iff id name symbol).2 howns), noteNames_of_mem hnoted]

/-- A name that was interned once is interned to the same symbol in every later table, which
interning it leaves. -/
theorem GrowsTo.intern (htable : table.Reachable)
    (hintern : table.intern id name = (some symbol, mid)) (h : mid.GrowsTo later) :
    later.intern id name = (some symbol, later) := by
  obtain ⟨hmid, hmade⟩ := htable.of_intern hintern
  exact intern_of_owns (h.reachable hmid) (h.owns hmid hmade)

end SymbolTable

namespace Reader

/-- Between two readers that only interned names the symbol table grew. -/
theorem Interned.growsTo {before after : Reader} (h : before.Interned after) :
    before.host.GrowsTo after.host := by
  obtain ⟨names, -, hnames⟩ := h.host
  rw [hnames]
  exact SymbolTable.growsTo_internAll _ _ names

end Reader

/-! ## Steps that recur -/

namespace Outcome

variable {α β : Type} {reader : Reader}

/-- Where the first outcome is a value, the step has the same value in every symbol table that is
later than the one it left, and leaves that table. What the step comes to in other symbol tables is
told by `again`. -/
def Recurs (first : Outcome α) (again : SymbolTable → Outcome α) : Prop :=
  ∀ result after, first = .value result after → ∀ later, after.host.GrowsTo later →
    again later = .value result { after with host := later }

/-- A step that does not depend on the symbol table recurs. -/
theorem recurs_of_eq {first : Outcome α} {again : SymbolTable → Outcome α}
    (h : ∀ later, again later = match first with
      | .value result after => .value result { after with host := later }
      | other => other) : first.Recurs again := by
  rintro result after rfl later -
  exact h later

theorem Recurs.congr {first : Outcome α} {again again' : SymbolTable → Outcome α}
    (h : first.Recurs again) (heq : ∀ later, again' later = again later) : first.Recurs again' := by
  intro result after hvalue later hlater
  rw [heq later]
  exact h result after hvalue later hlater

/-- A step that failed has nothing to repeat. -/
theorem recurs_failed (failure : ReadFailure) (after : Reader) (again : SymbolTable → Outcome α) :
    (failed failure after).Recurs again := by
  intro result other heq
  cases heq

/-- Steps that recur one after the other recur together, if what follows interns names only. -/
theorem Recurs.andThen {first : Outcome α} {again : SymbolTable → Outcome α}
    {next : α → Reader → Outcome β} (h : first.Recurs again)
    (hnext : ∀ result mid, first = .value result mid → (next result mid).Interned mid ∧
      (next result mid).Recurs fun later => next result { mid with host := later }) :
    (first.andThen next).Recurs fun later => (again later).andThen next := by
  intro result after hvalue later hlater
  obtain ⟨found, mid, hfound, hlast⟩ := andThen_eq_value hvalue
  obtain ⟨hinterned, hrecurs⟩ := hnext found mid hfound
  rw [hlast] at hinterned
  -- the table that the first step left grows to the one that the second step left
  have hgrows : mid.host.GrowsTo later := (Reader.Interned.growsTo hinterned).trans hlater
  dsimp only
  rw [h found mid hfound later hgrows]
  exact hrecurs result after hlast later hlater

theorem Recurs.map {first : Outcome α} {again : SymbolTable → Outcome α} (h : first.Recurs again)
    (f : α → β) : (first.map f).Recurs fun later => (again later).map f :=
  h.andThen fun _ _ _ => ⟨Reader.interned_of_host_eq rfl rfl, recurs_of_eq fun _ => rfl⟩

end Outcome

namespace Reader

variable {reader : Reader}

/-- A step under another table recurs when the table is set again. -/
theorem recurs_withTable {α : Type} {table : ReadTable} {step : Reader → Outcome α}
    (h : (step { reader with table }).Recurs
      fun later => step { reader with table, host := later }) :
    (reader.withTable table step).Recurs
      fun later => { reader with host := later }.withTable table step := by
  intro result after hvalue later hlater
  unfold withTable at hvalue ⊢
  obtain ⟨inner, hstep, rfl⟩ := Outcome.onReturn_eq_value hvalue
  have hagain : step { reader with table, host := later } =
      .value result { inner with host := later } := h result inner hstep later hlater
  exact congrArg (Outcome.onReturn _) hagain

/-- A plain token is the same symbol again. -/
theorem takeSymbol_recurs (hhost : reader.host.Reachable) :
    reader.takeSymbol.Recurs fun later => { reader with host := later }.takeSymbol := by
  intro result after hvalue later hlater
  unfold takeSymbol at hvalue ⊢
  dsimp only at hvalue ⊢
  split at hvalue
  next symbol host hintern =>
    obtain ⟨rfl, rfl⟩ := Outcome.value.inj hvalue
    rw [SymbolTable.GrowsTo.intern hhost hintern hlater]
  next => cases hvalue

theorem takeText_recurs (reader : Reader) (quote : Char) (start : Nat) :
    (reader.takeText quote start).Recurs
      fun later => { reader with host := later }.takeText quote start := by
  intro result after hvalue later _
  unfold takeText at hvalue ⊢
  dsimp only at hvalue ⊢
  split at hvalue
  · obtain ⟨rfl, rfl⟩ := Outcome.value.inj hvalue
    rfl
  · cases hvalue

/-- A reference names the same symbol again. -/
theorem takeReference_recurs (hhost : reader.host.Reachable) (registry : AliasRegistry)
    (trigger : Char) (start : Nat) :
    (reader.takeReference registry trigger start).Recurs
      fun later => { reader with host := later }.takeReference registry trigger start := by
  intro result after hvalue later hlater
  unfold takeReference at hvalue ⊢
  dsimp only at hvalue ⊢
  split at hvalue
  · -- a token that the policy does not fold has no value
    split at hvalue <;> cases hvalue
  · split at hvalue
    next symbol hresolve =>
      obtain ⟨rfl, rfl⟩ := Outcome.value.inj hvalue
      obtain ⟨requests, hrequests, rfl⟩ := hlater
      rw [Reference.resolveToken?_performAll hhost hresolve hrequests]
    next => cases hvalue
    next => cases hvalue

end Reader

/-- After a step that goes on and interns names only, the table is still ordinary and the symbol
table was still made by requests. -/
theorem Outcome.Leaves.ordinary_reachable {α : Type} {reader mid : Reader} {used : α → Nat}
    {outcome : Outcome α} {result : α} (hleaves : outcome.Leaves reader used)
    (hinterned : outcome.Interned reader) (htable : reader.table.Ordinary)
    (hhost : reader.host.Reachable) (hmid : outcome = .value result mid) :
    mid.table.Ordinary ∧ mid.host.Reachable := by
  subst hmid
  have hcontinues : reader.Continues mid := hleaves.1
  exact ⟨hcontinues.table ▸ htable, (Reader.Interned.growsTo hinterned).reachable hhost⟩

/-! ## Steps that call each other -/

namespace Steps

variable {stores : Stores} {steps : Steps}

/-- The steps recur, from every reader with an ordinary table and a symbol table that was made by
requests. -/
structure Recurs (steps : Steps) : Prop where
  /-- A form is read again. -/
  form : ∀ reader, reader.table.Ordinary → reader.host.Reachable →
    (steps.form reader).Recurs fun later => steps.form { reader with host := later }
  /-- A datum is read again. -/
  next : ∀ reader, reader.table.Ordinary → reader.host.Reachable →
    (steps.next reader).Recurs fun later => steps.next { reader with host := later }
  /-- All data are read again. -/
  all : ∀ reader, reader.table.Ordinary → reader.host.Reachable →
    (steps.all reader).Recurs fun later => steps.all { reader with host := later }
  /-- The items of a list are read again. -/
  items : ∀ start reader, reader.table.Ordinary → reader.host.Reachable →
    (steps.items start reader).Recurs fun later => steps.items start { reader with host := later }

variable (h : steps.Recurs) {reader : Reader} (htable : reader.table.Ordinary)
  (hhost : reader.host.Reachable)

include h htable hhost

theorem delegate_recurs {fallback : ReadTable} (hfallback : fallback.Ordinary) {c : Char}
    (hpeek : reader.peek? = some c) :
    (steps.delegate fallback c reader.advance).Recurs
      fun later => steps.delegate fallback c { reader.advance with host := later } := by
  -- the trigger that was read is put back, on both sides
  have hagain := fun later => @Reader.unread_advance { reader with host := later } c hpeek
  rw [delegate, Reader.unread_advance hpeek]
  refine (Reader.recurs_withTable (h.form
    { reader with table := reader.table.rebindFrom fallback c } (htable.rebindFrom hfallback c)
    hhost)).congr fun later => ?_
  rw [← hagain later]
  rfl

theorem handle_recurs {handler : Handler} (hhandler : handler.Ordinary) {c : Char}
    (hpeek : reader.peek? = some c) (start : Nat) :
    (handle stores steps handler c start reader.advance).Recurs
      fun later => handle stores steps handler c start { reader.advance with host := later } := by
  have hadvanced : reader.advance.table.Ordinary := htable
  cases hhandler with
  | list => exact (h.items start reader.advance hadvanced hhost).map _
  | close => exact Outcome.recurs_failed _ _ _
  | text => exact reader.advance.takeText_recurs c start
  | quote =>
    refine (h.next reader.advance hadvanced hhost).andThen fun result mid _ => ?_
    cases result with
    | some datum => exact ⟨Reader.interned_of_host_eq rfl rfl, Outcome.recurs_of_eq fun _ => rfl⟩
    | none => exact ⟨Reader.interned_of_host_eq rfl rfl, Outcome.recurs_failed _ _ _⟩
  | comment => exact Outcome.recurs_of_eq fun _ => rfl
  | aliasing store => exact @Reader.takeReference_recurs reader.advance hhost _ c start
  | sentinel store hfallback =>
    simp only [handle]
    -- which of the two it is depends on the aliases alone
    split
    · exact @Reader.takeReference_recurs reader.advance hhost _ c start
    · exact delegate_recurs h htable hhost hfallback hpeek
  | delegating hfallback => exact delegate_recurs h htable hhost hfallback hpeek

theorem readForm_recurs : (readForm stores steps reader).Recurs
    fun later => readForm stores steps { reader with host := later } := by
  cases hpeek : reader.skipWhitespace.peek? with
  | none =>
    rw [readForm_of_end hpeek]
    exact Outcome.recurs_of_eq fun later => @readForm_of_end _ _ { reader with host := later } hpeek
  | some c =>
    cases hbinding : reader.table.binding? c with
    | none =>
      rw [readForm_of_unbound hpeek hbinding]
      exact ((@Reader.takeSymbol_recurs reader.skipWhitespace hhost).map some).congr fun later =>
        @readForm_of_unbound _ _ { reader with host := later } c hpeek hbinding
    | some binding =>
      rw [readForm_of_bound hpeek hbinding]
      exact (@handle_recurs stores steps h reader.skipWhitespace htable hhost _
        (htable c binding hbinding) c hpeek _).congr fun later =>
        @readForm_of_bound _ _ { reader with host := later } c binding hpeek hbinding

variable (hadvances : steps.Advances) (hinterns : steps.Interns)

include hadvances hinterns

theorem readNext_recurs : (readNext steps reader).Recurs
    fun later => readNext steps { reader with host := later } := by
  have hagain : ∀ later,
      Cursor.isAtEnd (Reader.cursor (Reader.skipWhitespace { reader with host := later })) =
        reader.skipWhitespace.cursor.isAtEnd := fun _ => rfl
  unfold readNext
  simp only [hagain]
  split
  · exact Outcome.recurs_of_eq fun _ => rfl
  · refine (h.form reader.skipWhitespace htable hhost).andThen fun result mid hmid => ?_
    cases result with
    | some datum => exact ⟨Reader.interned_of_host_eq rfl rfl, Outcome.recurs_of_eq fun _ => rfl⟩
    | none =>
      obtain ⟨hmidTable, hmidHost⟩ :=
        (hadvances.form reader.skipWhitespace htable).ordinary_reachable
          (hinterns.form reader.skipWhitespace htable) htable hhost hmid
      exact ⟨hinterns.next mid hmidTable, h.next mid hmidTable hmidHost⟩

theorem readAll_recurs : (readAll steps reader).Recurs
    fun later => readAll steps { reader with host := later } := by
  refine (h.next reader htable hhost).andThen fun result mid hmid => ?_
  cases result with
  | none => exact ⟨Reader.interned_of_host_eq rfl rfl, Outcome.recurs_of_eq fun _ => rfl⟩
  | some datum =>
    obtain ⟨hmidTable, hmidHost⟩ := (hadvances.next reader htable).ordinary_reachable
      (hinterns.next reader htable) htable hhost hmid
    exact ⟨(hinterns.all mid hmidTable).map _, (h.all mid hmidTable hmidHost).map _⟩

theorem readItems_recurs (start : Nat) : (readItems steps start reader).Recurs
    fun later => readItems steps start { reader with host := later } := by
  have hagain : ∀ later, Reader.peek? (Reader.skipWhitespace { reader with host := later }) =
      reader.skipWhitespace.peek? := fun _ => rfl
  unfold readItems
  simp only [hagain]
  cases reader.skipWhitespace.peek? with
  | none => exact Outcome.recurs_failed _ _ _
  | some c =>
    dsimp only
    split
    · exact Outcome.recurs_of_eq fun _ => rfl
    · refine (h.form reader.skipWhitespace htable hhost).andThen fun result mid hmid => ?_
      obtain ⟨hmidTable, hmidHost⟩ :=
        (hadvances.form reader.skipWhitespace htable).ordinary_reachable
          (hinterns.form reader.skipWhitespace htable) htable hhost hmid
      exact ⟨(hinterns.items start mid hmidTable).map _,
        (h.items start mid hmidTable hmidHost).map _⟩

omit h htable hhost hadvances hinterns in
/-- However many calls are allowed inside each other, the steps recur. -/
theorem recurs_upTo (stores : Stores) (count : Nat) : (upTo stores count).Recurs := by
  induction count with
  | zero =>
    -- a step that was given up has no value
    exact ⟨fun _ _ _ => Outcome.recurs_of_eq fun _ => rfl,
      fun _ _ _ => Outcome.recurs_of_eq fun _ => rfl,
      fun _ _ _ => Outcome.recurs_of_eq fun _ => rfl,
      fun _ _ _ _ => Outcome.recurs_of_eq fun _ => rfl⟩
  | succ count ih =>
    have hadvances := advances_upTo stores count
    have hinterns := interns_upTo stores count
    exact ⟨fun _ htable hhost => readForm_recurs ih htable hhost,
      fun _ htable hhost => readNext_recurs ih htable hhost hadvances hinterns,
      fun _ htable hhost => readAll_recurs ih htable hhost hadvances hinterns,
      fun start _ htable hhost => readItems_recurs ih htable hhost hadvances hinterns start⟩

end Steps

/-! ## Reading a text again -/

namespace Reader

/-- All data of a text are read again, to the same data, in every symbol table that is later than
the one that the first reading left. The later table stays as it is. -/
theorem readAll_later (stores : Stores) {reader after : Reader} (htable : reader.table.Ordinary)
    (hhost : reader.host.Reachable) {data : List (Datum SymbolId)}
    (hread : reader.readAll stores = .value data after) {later : SymbolTable}
    (hlater : after.host.GrowsTo later) :
    { reader with host := later }.readAll stores = .value data { after with host := later } := by
  -- the allowance does not depend on the symbol table
  have hallowance : allowance { reader with host := later } = reader.allowance := rfl
  have hrecurs := (Steps.recurs_upTo stores reader.allowance).all reader htable hhost
  unfold readAll at hread ⊢
  rw [hallowance]
  exact hrecurs data after hread later hlater

/-- Reading a text again gives the same data. With an ordinary table, over any aliases, in any
namespace of a symbol table that was made by requests: if all data of a text are read, then from the
symbol table that this left they are read again to the same data, with the same symbols, and the
second reading leaves what the first one left, the symbol table included. -/
theorem readAll_again (stores : Stores) {reader after : Reader} (htable : reader.table.Ordinary)
    (hhost : reader.host.Reachable) {data : List (Datum SymbolId)}
    (hread : reader.readAll stores = .value data after) :
    { reader with host := after.host }.readAll stores = .value data after :=
  readAll_later stores htable hhost hread (.refl after.host)

/-- The alias designates the namespace that the text is read in, and the name behind it is that of a
symbol which the same list makes. -/
theorem readAll_again_ownAlias :
    let aliases : Stores := fun _ => AliasRegistry.empty.set ⟨1⟩ [(.named "USER", "ME")]
    let table := ReadTable.standard.installSentinel '$' none ⟨0⟩
    let reader := ofSource "(new '$me::new)" table Reference.libraryHost ⟨1⟩
    reader.table.Ordinary ∧ reader.host.Reachable ∧
      reader.host.lookup? ⟨1⟩ "NEW" = some .missing ∧
      ∃ data after, reader.readAll aliases = .value data after ∧
        Datum.symbolsOfItems data = [⟨2⟩, ⟨2⟩] ∧
        after.host.lookup? ⟨1⟩ "NEW" = some (.found ⟨2⟩ .internal) ∧
        { reader with host := after.host }.readAll aliases = .value data after := by
  intro aliases table reader
  have htable : reader.table.Ordinary :=
    (ReadTable.ordinary_standard .upcase).installSentinel (by rintro _ ⟨⟩) '$' ⟨0⟩
  have hhost : reader.host.Reachable := SymbolTable.Reachable.empty.performAll _
  have hread : (match reader.readAll aliases with
      | .value data after => decide (Datum.symbolsOfItems data = [⟨2⟩, ⟨2⟩] ∧
          after.host.lookup? ⟨1⟩ "NEW" = some (.found ⟨2⟩ .internal))
      | .failed _ _ => false
      | .dangling _ => false
      | .exhausted => false) = true := by decide +kernel
  cases hall : reader.readAll aliases with
  | value data after =>
    rw [hall] at hread
    obtain ⟨hsymbols, hmade⟩ := of_decide_eq_true hread
    exact ⟨htable, hhost, by decide, data, after, rfl, hsymbols, hmade,
      readAll_again aliases htable hhost hall⟩
  | failed failure after =>
    rw [hall] at hread
    cases hread
  | dangling after =>
    rw [hall] at hread
    cases hread
  | exhausted =>
    rw [hall] at hread
    cases hread

end Reader

end AliasReader
