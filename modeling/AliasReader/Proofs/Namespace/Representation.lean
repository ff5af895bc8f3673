import AliasReader.Proofs.Namespace.Arena
import AliasReader.Proofs.Namespace.Handles
import AliasReader.Proofs.Namespace.NameTables
import AliasReader.Proofs.Namespace.SymbolHistory

/-!
# Arenas That Represent Symbol Tables

An arena and a symbol table are led through the same requests. As long as there is a handle of 32
bits for every text and for every symbol, each request has the same reply from both, and whatever
can be asked about namespaces and symbols has the same answer. There is a handle for every namespace
then, too, as each one has a name of its own.

## Main definitions

* `SymbolTable.Fits`: a table with a handle for each text and for each symbol;
* `Arena.Represents`: an arena holds what a symbol table holds;
* `Arena.Serves`: requests lead from one arena to a later one without stopping the program.

## Main results

* `Arena.Represents.lookup?_eq`, `Arena.Represents.visibility?_eq` and others: what is told of an
  arena;
* `Arena.Represents.perform`: a request has the same reply from both, and leaves the same in both;
* `Arena.represents_after` and `Arena.reply_after`: so have all requests to a new arena;
* `Arena.Represents.exists_of_serves`: requests about namespaces that exist do not stop the program.
-/

namespace AliasReader

/-! ## Limits -/

namespace SymbolTable

variable {table : SymbolTable}

/-- There is a handle of 32 bits for each interned text and for each symbol. -/
structure Fits (table : SymbolTable) : Prop where
  /-- The texts have handles. -/
  texts : table.texts.size ≤ UInt32.size
  /-- The symbols have handles. -/
  symbols : table.symbols.length ≤ UInt32.size

/-- A table has no more namespaces than texts, as each one has a name of its own. -/
theorem Reachable.length_namespaces_le (h : table.Reachable) :
    table.namespaces.length ≤ table.texts.size := by
  have hgoes : ∀ place entry, table.namespaces[place]? = some entry →
      table.GoesBy ⟨place⟩ entry.name := fun _ entry hentry =>
    ⟨entry, hentry, List.mem_cons_self⟩
  have hdistinct : (table.namespaces.map NamespaceEntry.name).Nodup := by
    apply List.pairwise_iff_getElem.2
    intro i j hi hj hless hsame
    rw [List.getElem_map, List.getElem_map] at hsame
    rw [List.length_map] at hi hj
    -- the name leads to one namespace only
    have hfirst := hgoes i _ (List.getElem?_eq_getElem hi)
    have hsecond := hgoes j _ (List.getElem?_eq_getElem hj)
    rw [← hsame] at hsecond
    have hfound := (h.wellFormed.index_iff _ _).2 hfirst
    rw [(h.wellFormed.index_iff _ _).2 hsecond] at hfound
    exact Nat.ne_of_gt hless (congrArg NamespaceId.index (Option.some.inj hfound))
  have hinterned : table.namespaces.map NamespaceEntry.name ⊆ table.texts.texts := by
    intro name hname
    obtain ⟨entry, hentry, rfl⟩ := List.mem_map.1 hname
    obtain ⟨place, hplace⟩ := List.mem_iff_getElem?.1 hentry
    exact h.mem_texts_of_goesBy (hgoes place entry hplace)
  rw [← List.length_map (f := NamespaceEntry.name)]
  exact (List.subperm_of_subset hdistinct hinterned).length_le

/-- Interning a name leaves the symbols from before in front. -/
theorem symbols_grow_intern (table : SymbolTable) (id : NamespaceId) (name : String) :
    table.symbols <+: (table.intern id name).2.symbols := by
  rcases hentry : table.namespace? id with _ | entry
  · rw [intern_of_missing name hentry]
    exact List.prefix_rfl
  · rcases hfind : entry.symbols.find? name with _ | symbol
    · rw [intern_of_unbound hentry hfind]
      exact List.prefix_append _ _
    · rw [intern_of_binds ⟨entry, hentry, hfind⟩]
      exact List.prefix_rfl

/-- No request takes a symbol away. -/
theorem symbols_grow_perform (table : SymbolTable) (request : Request) :
    table.symbols <+: (table.perform request).symbols := by
  cases request with
  | create name => rw [perform, symbols_create]
  | intern id name => exact table.symbols_grow_intern id name
  | internExternal id name =>
    have hintern := table.symbols_grow_intern id name
    rw [perform, internExternal_eq]
    generalize table.intern id name = made at hintern ⊢
    -- exposing a symbol leaves the list of symbols
    rcases made with ⟨_ | _, _⟩ <;> exact hintern
  | rename id name nicknames => rw [perform, symbols_rename]

/-- A table fits if a later one does. -/
theorem Fits.of_perform {request : Request} (h : (table.perform request).Fits) : table.Fits where
  texts := by
    refine Nat.le_trans ?_ h.texts
    rw [texts_perform]
    exact (Interner.texts_prefix_internAll _ _).length_le
  symbols := Nat.le_trans (table.symbols_grow_perform request).length_le h.symbols

theorem Fits.of_performAll {requests : List Request} (h : (table.performAll requests).Fits) :
    table.Fits := by
  -- by induction on the requests, none of which takes a text or a symbol away
  induction requests generalizing table with
  | nil => exact h
  | cons request requests ih => exact (ih h).of_perform

/-- The tables on the way fit if the last one does. -/
theorem Fits.of_append {before later : List Request}
    (h : (table.performAll (before ++ later)).Fits) : (table.performAll before).Fits := by
  rw [performAll, List.foldl_append] at h
  exact h.of_performAll

end SymbolTable

/-! ## Arenas and symbol tables -/

section Places

variable {α β : Type} {R : α → β → Prop} {xs : List α} {ys : List β}

/-- Lists that go together do so at each place, and end at the same one. -/
theorem forall₂_getElem? (h : List.Forall₂ R xs ys) (place : Nat) :
    (xs[place]? = none ∧ ys[place]? = none) ∨
      ∃ x y, xs[place]? = some x ∧ ys[place]? = some y ∧ R x y := by
  induction h generalizing place with
  | nil => exact Or.inl ⟨rfl, rfl⟩
  | cons hfirst _ ih =>
    cases place with
    | zero => exact Or.inr ⟨_, _, rfl, rfl, hfirst⟩
    | succ place => exact ih place

/-- Lists that go together do so when both are changed at one place. -/
theorem forall₂_modify {f : α → α} {g : β → β} (h : List.Forall₂ R xs ys)
    (hchange : ∀ x y, R x y → R (f x) (g y)) (place : Nat) :
    List.Forall₂ R (xs.modify place f) (ys.modify place g) := by
  induction h generalizing place with
  | nil => cases place <;> exact .nil
  | cons hfirst hrest ih =>
    cases place with
    | zero => exact .cons (hchange _ _ hfirst) hrest
    | succ place => exact .cons hfirst (ih place)

/-- Lists that go together do so when something that goes together is put behind both. -/
theorem forall₂_concat {x : α} {y : β} (h : List.Forall₂ R xs ys) (hlast : R x y) :
    List.Forall₂ R (xs ++ [x]) (ys ++ [y]) :=
  List.rel_append h (.cons hlast .nil)

end Places

/-- A namespace of an arena holds what a namespace of a table holds. -/
structure ArenaNamespace.Represents (texts : Interner) (cell : ArenaNamespace)
    (entry : NamespaceEntry) : Prop where
  /-- The primary names are the same. -/
  name : texts.get? entry.name = some cell.name
  /-- The other names are the same. -/
  nicknames : texts.Handles cell.nicknames entry.nicknames
  /-- The same symbols are bound. -/
  symbols : Keyed texts cell.symbols entry.symbols
  /-- The same symbols are external. -/
  mem_external_iff : ∀ symbol, symbol ∈ cell.external ↔ symbol ∈ entry.external

/-- A symbol of an arena is a symbol of a table. -/
structure ArenaSymbol.Represents (texts : Interner) (cell : ArenaSymbol) (entry : SymbolEntry) :
    Prop where
  /-- The names are the same. -/
  name : texts.get? entry.name = some cell.name
  /-- The homes are the same. -/
  home : cell.home = entry.home

/-- An arena holds what a symbol table holds. -/
structure Arena.Represents (arena : Arena) (table : SymbolTable) : Prop where
  /-- The same texts are interned. -/
  texts : arena.texts.Represents table.texts
  /-- The index leads to the same namespaces. -/
  index : Keyed table.texts arena.index table.index
  /-- The namespaces are the same, in the same order. -/
  namespaces : List.Forall₂ (ArenaNamespace.Represents table.texts) arena.namespaces.toList
    table.namespaces
  /-- The symbols are the same, in the same order. -/
  symbols : List.Forall₂ (ArenaSymbol.Represents table.texts) arena.symbols.toList table.symbols

namespace ArenaNamespace.Represents

variable {texts later : Interner} {cell : ArenaNamespace} {entry : NamespaceEntry}

theorem ofName {name : Name} {text : String} (h : texts.get? text = some name) :
    (ArenaNamespace.ofName name).Represents texts (.ofName text) where
  name := h
  nicknames := .nil
  symbols := .empty texts
  mem_external_iff symbol := by simp [ArenaNamespace.ofName, NamespaceEntry.ofName]

theorem grow (h : cell.Represents texts entry) (hgrows : texts.texts <+: later.texts) :
    cell.Represents later entry where
  name := Interner.get?_of_grows hgrows h.name
  nicknames := h.nicknames.grow hgrows
  symbols := h.symbols.grow hgrows
  mem_external_iff := h.mem_external_iff

/-- A symbol is bound under the name as under the text. -/
theorem bindSymbol (h : cell.Represents texts entry) {name : Name} {text : String}
    (hname : texts.get? text = some name) (symbol : SymbolId) :
    ArenaNamespace.Represents texts { cell with symbols := cell.symbols.insert name symbol }
      (entry.bindSymbol text symbol) where
  name := h.name
  nicknames := h.nicknames
  symbols := h.symbols.insert hname symbol
  mem_external_iff := h.mem_external_iff

theorem exposeSymbol (h : cell.Represents texts entry) (symbol : SymbolId) :
    ArenaNamespace.Represents texts { cell with external := cell.external.insert symbol }
      (entry.exposeSymbol symbol) where
  name := by
    unfold NamespaceEntry.exposeSymbol
    split <;> exact h.name
  nicknames := by
    unfold NamespaceEntry.exposeSymbol
    split <;> exact h.nicknames
  symbols := by
    rw [NamespaceEntry.symbols_exposeSymbol]
    exact h.symbols
  mem_external_iff other := by
    rw [NamespaceEntry.mem_external_exposeSymbol, ← h.mem_external_iff, Std.HashSet.mem_insert,
      beq_iff_eq, eq_comm]

theorem withNames (h : cell.Represents texts entry) {name : Name} {nicknames : List Name}
    {text : String} {given : List String} (hname : texts.get? text = some name)
    (hnicknames : texts.Handles nicknames given) :
    ArenaNamespace.Represents texts { cell with name, nicknames }
      (entry.withNames text given) where
  name := hname
  nicknames := hnicknames
  symbols := h.symbols
  mem_external_iff := h.mem_external_iff

theorem visibility_eq (h : cell.Represents texts entry) (symbol : SymbolId) :
    cell.visibility symbol = entry.visibility symbol := by
  unfold ArenaNamespace.visibility NamespaceEntry.visibility
  simp only [h.mem_external_iff]

theorem lookup_eq (h : cell.Represents texts entry) {name : Name} {text : String}
    (hname : texts.get? text = some name) : cell.lookup name = entry.lookup text := by
  have hsame := h.symbols.getElem?_eq hname
  unfold ArenaNamespace.lookup NamespaceEntry.lookup
  rcases hfind : entry.symbols.find? text with _ | symbol
  · simp only [hsame, hfind]
  · simp only [hsame, hfind, h.visibility_eq]

end ArenaNamespace.Represents

namespace Arena

namespace Represents

variable {arena : Arena} {table : SymbolTable}

/-! ### What is told -/

theorem new : Represents .new .empty where
  texts := .new
  index := .empty _
  namespaces := .nil
  symbols := .nil

section

variable (h : arena.Represents table)

include h

theorem size_eq : arena.namespaces.size = table.namespaces.length :=
  h.namespaces.length_eq

theorem hasNamespace_eq (id : NamespaceId) : arena.hasNamespace id = table.hasNamespace id := by
  rw [hasNamespace, h.size_eq, SymbolTable.hasNamespace]

/-- A handle names a namespace of both or of neither. -/
theorem namespace?_eq (id : NamespaceId) :
    (arena.namespace? id = none ∧ table.namespace? id = none) ∨
      ∃ cell entry, arena.namespace? id = some cell ∧ table.namespace? id = some entry ∧
        cell.Represents table.texts entry := by
  rw [namespace?, ← Array.getElem?_toList]
  exact forall₂_getElem? h.namespaces id.index

/-- A handle names a symbol of both or of neither. -/
theorem symbol_eq (symbol : SymbolId) :
    (arena.symbols[symbol.index]? = none ∧ table.symbols[symbol.index]? = none) ∨
      ∃ cell entry, arena.symbols[symbol.index]? = some cell ∧
        table.symbols[symbol.index]? = some entry ∧ cell.Represents table.texts entry := by
  rw [← Array.getElem?_toList]
  exact forall₂_getElem? h.symbols symbol.index

/-- The text of a name is the one that has it as its handle. -/
theorem lookup?_text {name : Name} {text : String} (hname : table.texts.get? text = some name) :
    arena.texts.lookup? name = some text := by
  rw [h.texts.lookup?_eq]
  exact Interner.lookup?_of_get? hname

theorem name?_eq (id : NamespaceId) : arena.name? id = table.name? id := by
  unfold name? SymbolTable.name?
  rcases h.namespace?_eq id with ⟨hcell, hentry⟩ | ⟨cell, entry, hcell, hentry, hsame⟩
  · rw [hcell, hentry]
    rfl
  · rw [hcell, hentry]
    exact h.lookup?_text hsame.name

theorem find?_eq (designator : Designator) : arena.find? designator = table.find? designator := by
  cases designator with
  | handle id => rw [find?, SymbolTable.find?, h.hasNamespace_eq]
  | named text =>
    show (arena.texts.get? text).bind (fun name => arena.index[name]?) = table.index.find? text
    rw [h.texts.get?_eq]
    exact h.index.find?_eq text

theorem symbolName?_eq (symbol : SymbolId) :
    arena.symbolName? symbol = table.symbolName? symbol := by
  unfold symbolName? SymbolTable.symbolName?
  rcases h.symbol_eq symbol with ⟨hcell, hentry⟩ | ⟨cell, entry, hcell, hentry, hsame⟩
  · rw [hcell, hentry]
    rfl
  · rw [hcell, hentry]
    exact h.lookup?_text hsame.name

theorem home?_eq (symbol : SymbolId) : arena.home? symbol = table.home? symbol := by
  unfold home? SymbolTable.home?
  rcases h.symbol_eq symbol with ⟨hcell, hentry⟩ | ⟨cell, entry, hcell, hentry, hsame⟩
  · rw [hcell, hentry]
    rfl
  · rw [hcell, hentry]
    exact congrArg some hsame.home

theorem visibility?_eq (symbol : SymbolId) :
    arena.visibility? symbol = table.visibility? symbol := by
  unfold visibility? SymbolTable.visibility?
  rw [h.home?_eq]
  apply Option.bind_congr
  intro home _
  rcases h.namespace?_eq home with ⟨hcell, hentry⟩ | ⟨cell, entry, hcell, hentry, hsame⟩
  · rw [hcell, hentry]
    rfl
  · rw [hcell, hentry]
    exact congrArg some (hsame.visibility_eq symbol)

theorem lookup?_eq (id : NamespaceId) (text : String) :
    arena.lookup? id text = table.lookup? id text := by
  unfold lookup? SymbolTable.lookup?
  rw [h.texts.get?_eq]
  rcases hname : table.texts.get? text with _ | name
  · rfl
  · show (arena.namespace? id).map _ = (table.namespace? id).map _
    rcases h.namespace?_eq id with ⟨hcell, hentry⟩ | ⟨cell, entry, hcell, hentry, hsame⟩
    · rw [hcell, hentry]
      rfl
    · rw [hcell, hentry]
      exact congrArg some (hsame.lookup_eq hname)

theorem inUse?_eq {text : String} {owner : NamespaceId} (hformed : table.WellFormed)
    (howner : table.index.find? text = some owner) :
    arena.inUse? text owner = some (table.inUse text owner) := by
  obtain ⟨primary, hprimary, hinUse⟩ := SymbolTable.inUse_eq hformed howner
  rw [inUse?, h.name?_eq, hprimary, hinUse]
  rfl

end

/-! ### Interning names -/

/-- Interning texts changes nothing but the interner. -/
theorem withTexts (h : arena.Represents table) {texts : IndexedInterner} {given : List String}
    (htexts : texts.Represents (table.texts.internAll given)) :
    Represents { arena with texts } (table.noteNames given) where
  texts := htexts
  index := h.index.grow (Interner.texts_prefix_internAll _ _)
  namespaces := h.namespaces.imp fun _ _ hsame =>
    hsame.grow (Interner.texts_prefix_internAll _ _)
  symbols := h.symbols.imp fun _ _ hsame =>
    ⟨Interner.get?_of_grows (Interner.texts_prefix_internAll _ _) hsame.name, hsame.home⟩

/-- While there is a handle for it, a text is interned in both. -/
theorem note (h : arena.Represents table) (text : String)
    (room : (table.texts.internAll [text]).size ≤ UInt32.size) :
    ∃ name noted, arena.note text = (some name, noted) ∧
      noted.Represents (table.noteNames [text]) ∧
      (table.noteNames [text]).texts.get? text = some name := by
  obtain ⟨texts, htry, htexts⟩ := h.texts.tryIntern text room
  refine ⟨(table.texts.intern text).1, { arena with texts }, ?_, h.withTexts htexts, ?_⟩
  · rw [Arena.note, htry]
  · exact table.texts.get?_intern_self text

theorem noteAll (h : arena.Represents table) (given : List String)
    (room : (table.texts.internAll given).size ≤ UInt32.size) :
    ∃ names noted, arena.noteAll given = (some names, noted) ∧
      noted.Represents (table.noteNames given) ∧
      (table.noteNames given).texts.Handles names given := by
  -- by induction on the texts, of which the first one is noted before the rest
  induction given generalizing arena table with
  | nil => exact ⟨[], arena, rfl, h, .nil⟩
  | cons text rest ih =>
    have hgrows : (table.texts.internAll [text]).texts <+:
        (table.texts.internAll (text :: rest)).texts :=
      Interner.texts_prefix_internAll _ rest
    obtain ⟨name, first, hfirst, hfirst', hname⟩ :=
      h.note text (Nat.le_trans hgrows.length_le room)
    obtain ⟨names, noted, hnoted, hnoted', hnames⟩ := ih hfirst' room
    refine ⟨name :: names, noted, ?_, hnoted', .cons ?_ hnames⟩
    · rw [Arena.noteAll, hfirst]
      simp only [hnoted]
    · exact Interner.get?_of_grows hgrows hname

/-! ### Changes -/

/-- Both are changed at the same place. -/
theorem modify (h : arena.Represents table) (id : NamespaceId)
    {change : ArenaNamespace → ArenaNamespace} {change' : NamespaceEntry → NamespaceEntry}
    (hchange : ∀ cell entry, cell.Represents table.texts entry →
      (change cell).Represents table.texts (change' entry)) :
    (arena.modify id change).Represents (table.modify id change') where
  texts := h.texts
  index := h.index
  namespaces := by
    show List.Forall₂ _ (arena.namespaces.modify id.index change).toList _
    rw [Array.toList_modify]
    exact forall₂_modify h.namespaces hchange id.index
  symbols := h.symbols

/-- The next namespace has the same handle in both. -/
theorem ofPlace_namespaces (h : arena.Represents table)
    (room : table.namespaces.length < UInt32.size) :
    NamespaceId.ofPlace arena.namespaces.size = ⟨table.namespaces.length⟩ := by
  rw [h.size_eq, NamespaceId.ofPlace_of_lt room]

/-- The next symbol has the same handle in both. -/
theorem ofPlace_symbols (h : arena.Represents table) (room : table.symbols.length < UInt32.size) :
    SymbolId.ofPlace arena.symbols.size = ⟨table.symbols.length⟩ := by
  have hsize : arena.symbols.size = table.symbols.length := h.symbols.length_eq
  rw [hsize, SymbolId.ofPlace_of_lt room]

/-- A namespace is added to both. -/
theorem addNamespace (h : arena.Represents table) {name : Name} {text : String}
    (hname : table.texts.get? text = some name) (room : table.namespaces.length < UInt32.size) :
    (arena.addNamespace name).Represents (table.addNamespace text) where
  texts := h.texts
  index := by
    rw [Arena.addNamespace, h.ofPlace_namespaces room]
    exact h.index.insert hname _
  namespaces := by
    show List.Forall₂ _ (arena.namespaces.push _).toList _
    rw [Array.toList_push]
    exact forall₂_concat h.namespaces (.ofName hname)
  symbols := h.symbols

/-- A symbol is added to both. -/
theorem addSymbol (h : arena.Represents table) (id : NamespaceId) {name : Name} {text : String}
    (hname : table.texts.get? text = some name) (room : table.symbols.length < UInt32.size) :
    (arena.addSymbol id name).Represents (table.addSymbol id text) where
  texts := h.texts
  index := h.index
  namespaces := by
    rw [Arena.addSymbol, h.ofPlace_symbols room]
    exact (h.modify id fun cell entry hsame => hsame.bindSymbol hname _).namespaces
  symbols := by
    show List.Forall₂ _ (arena.symbols.push _).toList _
    rw [Array.toList_push]
    exact forall₂_concat h.symbols ⟨hname, rfl⟩

theorem expose (h : arena.Represents table) (id : NamespaceId) (symbol : SymbolId) :
    (arena.expose id symbol).Represents (table.expose id symbol) :=
  h.modify id fun _ _ hsame => hsame.exposeSymbol symbol

/-- The names of a namespace are replaced in both. -/
theorem replaceNames (h : arena.Represents table) (id : NamespaceId) {old : List Name}
    {oldTexts : List String} (hold : table.texts.Handles old oldTexts) {name : Name}
    {nicknames : List Name} {text : String} {given : List String}
    (hname : table.texts.get? text = some name) (hnicknames : table.texts.Handles nicknames given) :
    (arena.replaceNames id old name nicknames).Represents
      (table.replaceNames id oldTexts text given) where
  texts := h.texts
  index := .insertAll (.cons hname hnicknames) (.eraseAll hold h.index) id
  namespaces := (h.modify id fun _ _ hsame => hsame.withNames hname hnicknames).namespaces
  symbols := h.symbols

/-! ### Requests -/

theorem create (h : arena.Represents table) (hreachable : table.Reachable) (text : String)
    (room : (table.create text).2.Fits) :
    (arena.create text).1 = some (table.create text).1 ∧
      (arena.create text).2.Represents (table.create text).2 := by
  have htexts : (table.create text).2.texts = table.texts.internAll [text] :=
    table.texts_perform (.create text)
  have hafter : (table.create text).2.Reachable := hreachable.perform (.create text)
  obtain ⟨name, noted, hnote, hnoted, hname⟩ := h.note text (htexts ▸ room.texts)
  have hindex : noted.index[name]? = table.index.find? text := hnoted.index.getElem?_eq hname
  unfold Arena.create
  simp only [hnote, hindex]
  rcases hfind : table.index.find? text with _ | owner
  · -- the table after the request has a handle for the new namespace
    have hplace : table.namespaces.length < UInt32.size := by
      have hle := Nat.le_trans hafter.length_namespaces_le room.texts
      rw [SymbolTable.create_of_free hfind] at hle
      simpa [SymbolTable.addNamespace, SymbolTable.noteNames, Nat.succ_le_iff] using hle
    rw [SymbolTable.create_of_free hfind]
    refine ⟨?_, hnoted.addNamespace hname hplace⟩
    exact congrArg (some <| Except.ok ·) (hnoted.ofPlace_namespaces hplace)
  · rw [SymbolTable.create_of_taken hfind]
    refine ⟨?_, hnoted⟩
    show (noted.inUse? text owner).map Except.error = _
    rw [hnoted.inUse?_eq (hreachable.wellFormed.noteNames [text]) hfind]
    rfl

theorem intern (h : arena.Represents table) (id : NamespaceId) (text : String)
    (room : (table.intern id text).2.Fits) :
    (arena.intern id text).1 = (table.intern id text).1 ∧
      (arena.intern id text).2.Represents (table.intern id text).2 := by
  have htexts : (table.intern id text).2.texts = table.texts.internAll [text] :=
    table.texts_perform (.intern id text)
  obtain ⟨name, noted, hnote, hnoted, hname⟩ := h.note text (htexts ▸ room.texts)
  unfold Arena.intern
  simp only [hnote]
  rcases hnoted.namespace?_eq id with ⟨hcell, hnone⟩ | ⟨cell, entry, hcell, hsome, hsame⟩
  · have hentry : table.namespace? id = none := hnone
    rw [hcell, SymbolTable.intern_of_missing text hentry]
    exact ⟨rfl, hnoted⟩
  · have hentry : table.namespace? id = some entry := hsome
    simp only [hcell, hsame.symbols.getElem?_eq hname]
    rcases hfind : entry.symbols.find? text with _ | symbol
    · rw [SymbolTable.intern_of_unbound hentry hfind] at room ⊢
      have hplace : table.symbols.length < UInt32.size := by
        simpa [SymbolTable.addSymbol, SymbolTable.noteNames, Nat.succ_le_iff] using room.symbols
      refine ⟨?_, hnoted.addSymbol id hname hplace⟩
      exact congrArg some (hnoted.ofPlace_symbols hplace)
    · rw [SymbolTable.intern_of_binds ⟨entry, hentry, hfind⟩]
      exact ⟨rfl, hnoted⟩

theorem internExternal (h : arena.Represents table) (id : NamespaceId) (text : String)
    (room : (table.internExternal id text).2.Fits) :
    (arena.internExternal id text).1 = (table.internExternal id text).1 ∧
      (arena.internExternal id text).2.Represents (table.internExternal id text).2 := by
  -- exposing a symbol needs no further handle
  have hroom : (table.intern id text).2.Fits := by
    rw [SymbolTable.internExternal_eq] at room
    rcases hmade : table.intern id text with ⟨_ | symbol, after⟩
    · rw [hmade] at room
      exact room
    · rw [hmade] at room
      exact ⟨room.texts, room.symbols⟩
  obtain ⟨hanswer, hafter⟩ := h.intern id text hroom
  rw [SymbolTable.internExternal_eq, Arena.internExternal]
  generalize arena.intern id text = result at hanswer hafter ⊢
  generalize table.intern id text = result' at hanswer hafter ⊢
  obtain ⟨made, left⟩ := result
  obtain ⟨made', left'⟩ := result'
  obtain rfl : made = made' := hanswer
  rcases made with _ | symbol
  · exact ⟨rfl, hafter⟩
  · exact ⟨rfl, hafter.expose id symbol⟩

theorem conflict?_eq (h : arena.Represents table) (id : NamespaceId) {names : List Name}
    {given : List String} (hnames : table.texts.Handles names given) :
    arena.conflict? id (names.zip given) = table.conflict? id given := by
  unfold Arena.conflict? SymbolTable.conflict?
  induction hnames with
  | nil => rfl
  | @cons name text _ _ hname _ ih =>
    have hsame := h.index.getElem?_eq hname
    rw [List.zip_cons_cons, List.findSome?_cons, List.findSome?_cons, ih]
    rcases hfind : table.index.find? text with _ | owner <;> simp only [hsame, hfind]

/-- Names that are interned are taken as the texts are given. -/
theorem takeNames {text : String} {nicknames : List String}
    (h : arena.Represents (table.noteNames (text :: nicknames))) (hformed : table.WellFormed)
    (id : NamespaceId) {name : Name} {names : List Name}
    (hname : (table.noteNames (text :: nicknames)).texts.get? text = some name)
    (hnames : (table.noteNames (text :: nicknames)).texts.Handles names nicknames) :
    (arena.takeNames id name names (text :: nicknames)).1 = (table.rename id text nicknames).1 ∧
      (arena.takeNames id name names (text :: nicknames)).2.Represents
        (table.rename id text nicknames).2 := by
  have hconflict : arena.conflict? id ((name :: names).zip (text :: nicknames)) =
      table.conflict? id (text :: nicknames) :=
    h.conflict?_eq id (.cons hname hnames)
  unfold Arena.takeNames
  rw [hconflict]
  -- a name that is in use is refused by both; otherwise the handle decides
  rcases htaken : table.conflict? id (text :: nicknames) with _ | ⟨taken, owner⟩
  · rcases h.namespace?_eq id with ⟨hcell, hnone⟩ | ⟨cell, entry, hcell, hsome, hsame⟩
    · have hentry : table.namespace? id = none := hnone
      rw [hcell, SymbolTable.rename_of_missing htaken hentry]
      exact ⟨rfl, h⟩
    · have hentry : table.namespace? id = some entry := hsome
      rw [hcell, SymbolTable.rename_of_free htaken hentry]
      exact ⟨rfl, h.replaceNames id (.cons hsame.name hsame.nicknames) hname hnames⟩
  · obtain ⟨-, -, -, -, howner, -⟩ := SymbolTable.exists_of_conflict? htaken
    rw [SymbolTable.rename_of_conflict htaken]
    refine ⟨?_, h⟩
    show (arena.inUse? taken owner).map Except.error = _
    rw [h.inUse?_eq (hformed.noteNames _) howner]
    rfl

theorem rename (h : arena.Represents table) (hformed : table.WellFormed) (id : NamespaceId)
    (text : String) (nicknames : List String) (room : (table.rename id text nicknames).2.Fits) :
    (arena.rename id text nicknames).1 = (table.rename id text nicknames).1 ∧
      (arena.rename id text nicknames).2.Represents (table.rename id text nicknames).2 := by
  have htexts : (table.rename id text nicknames).2.texts =
      table.texts.internAll (text :: nicknames) :=
    table.texts_perform (.rename id text nicknames)
  have hroom := room.texts
  rw [htexts] at hroom
  have hgrows : (table.texts.internAll [text]).texts <+:
      (table.texts.internAll (text :: nicknames)).texts :=
    Interner.texts_prefix_internAll _ nicknames
  -- the primary name is noted before the nicknames, and keeps its handle when they are
  obtain ⟨name, first, hfirst, hfirst', hname⟩ :=
    h.note text (Nat.le_trans hgrows.length_le hroom)
  obtain ⟨names, noted, hnoted, hnoted', hnames⟩ := hfirst'.noteAll nicknames hroom
  unfold Arena.rename
  simp only [hfirst, hnoted]
  exact takeNames hnoted' hformed id (Interner.get?_of_grows hgrows hname) hnames

/-- While the table fits, a request has the same reply from both, and leaves the same in both. -/
theorem perform (h : arena.Represents table) (hreachable : table.Reachable)
    (request : SymbolTable.Request) (room : (table.perform request).Fits) :
    arena.reply request = table.reply request ∧
      (arena.perform request).Represents (table.perform request) := by
  cases request with
  | create text =>
    obtain ⟨hanswer, hafter⟩ := h.create hreachable text room
    exact ⟨by rw [Arena.reply, hanswer, SymbolTable.reply], hafter⟩
  | intern id text =>
    obtain ⟨hanswer, hafter⟩ := h.intern id text room
    exact ⟨by rw [Arena.reply, hanswer, SymbolTable.reply], hafter⟩
  | internExternal id text =>
    obtain ⟨hanswer, hafter⟩ := h.internExternal id text room
    exact ⟨by rw [Arena.reply, hanswer, SymbolTable.reply], hafter⟩
  | rename id text nicknames =>
    obtain ⟨hanswer, hafter⟩ := h.rename hreachable.wellFormed id text nicknames room
    exact ⟨by rw [Arena.reply, hanswer, SymbolTable.reply], hafter⟩

/-- While the table fits, requests leave the same in both. -/
theorem performAll (h : arena.Represents table) (hreachable : table.Reachable)
    (requests : List SymbolTable.Request) (room : (table.performAll requests).Fits) :
    (requests.foldl Arena.perform arena).Represents (table.performAll requests) := by
  -- by induction on the requests; each table on the way fits, as the last one does
  induction requests generalizing arena table with
  | nil => exact h
  | cons request requests ih =>
    have hnext : (table.perform request).Fits := @SymbolTable.Fits.of_performAll _ requests room
    obtain ⟨-, hafter⟩ := h.perform hreachable request hnext
    exact ih hafter (hreachable.perform request) room

end Represents

/-- A new arena holds after any requests what the table without namespaces does, while that
fits. -/
theorem represents_after {requests : List SymbolTable.Request}
    (room : (SymbolTable.empty.performAll requests).Fits) :
    (after requests).Represents (SymbolTable.empty.performAll requests) :=
  Represents.new.performAll .empty requests room

/-- In the course of requests, each reply is that of the table. -/
theorem reply_after {before later : List SymbolTable.Request} {request : SymbolTable.Request}
    (room : (SymbolTable.empty.performAll (before ++ request :: later)).Fits) :
    (after before).reply request = (SymbolTable.empty.performAll before).reply request := by
  have hreachable := SymbolTable.Reachable.empty.performAll before
  have hnext : ((SymbolTable.empty.performAll before).perform request).Fits := by
    rw [← SymbolTable.performAll_concat]
    rw [List.append_cons] at room
    exact room.of_append
  exact ((represents_after hnext.of_perform).perform hreachable request hnext).1

/-! ## Requests that do not stop the program -/

/-- Requests lead from an arena to a later one, and none of them stops the program. -/
inductive Serves : Arena → Arena → Prop
  /-- No request is made. -/
  | refl (arena : Arena) : Serves arena arena
  /-- One more request is made. -/
  | perform {arena after : Arena} {request : SymbolTable.Request} : Serves arena after →
      after.reply request ≠ .stopped → Serves arena (after.perform request)

end Arena

namespace SymbolTable

/-- A request about a namespace that exists is granted or refused. -/
theorem reply_ne_stopped {table : SymbolTable} {request : Request}
    (htarget : ∀ id ∈ request.target?, table.hasNamespace id = true) :
    table.reply request ≠ .stopped := by
  cases request with
  | create name =>
    rw [reply]
    rcases (table.create name).1 with _ | _ <;> exact Reply.noConfusion
  | intern id name =>
    obtain ⟨symbol, hsymbol, -⟩ := intern_spec (htarget id rfl) name
    rw [reply, hsymbol]
    exact Reply.noConfusion
  | internExternal id name =>
    obtain ⟨symbol, hsymbol, -⟩ := intern_spec (htarget id rfl) name
    rw [← answer?_internExternal] at hsymbol
    rw [answer?] at hsymbol
    rw [reply, hsymbol]
    exact Reply.noConfusion
  | rename id name nicknames =>
    obtain ⟨entry, hentry⟩ := (table.hasNamespace_iff id).1 (htarget id rfl)
    rcases hconflict : table.conflict? id (name :: nicknames) with _ | conflict
    · rw [reply, rename_of_free hconflict hentry]
      exact Reply.noConfusion
    · rw [reply, rename_of_conflict hconflict]
      exact Reply.noConfusion

end SymbolTable

/-- Requests about namespaces that exist lead an arena to one that holds what the table holds then,
if that fits, and do not stop the program on the way. -/
theorem Arena.Represents.exists_of_serves {arena : Arena} {table after : SymbolTable}
    (h : arena.Represents table) (hreachable : table.Reachable) (hserves : table.Serves after)
    (room : after.Fits) :
    ∃ later, arena.Serves later ∧ later.Represents after ∧ after.Reachable := by
  -- by induction on the requests; the arena replies as the table does, which does not stop
  induction hserves with
  | refl => exact ⟨arena, .refl arena, h, hreachable⟩
  | @perform after request _ htarget ih =>
    obtain ⟨later, hlater, hsame, hafter⟩ := ih room.of_perform
    obtain ⟨hreply, hnext⟩ := hsame.perform hafter request room
    refine ⟨later.perform request, hlater.perform ?_, hnext, hafter.perform request⟩
    rw [hreply]
    exact SymbolTable.reply_ne_stopped htarget

end AliasReader
