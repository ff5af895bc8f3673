import AliasReader.Proofs.Namespace.Handles
import AliasReader.Proofs.Namespace.SymbolHistory

/-!
# Symbols of One Namespace

Requests for symbols of one namespace leave all other namespaces, and all symbols that were made
before. What names stand for in the namespace itself depends on which names were requested and which
of them were exported, however often and in whatever order that was done.

## Main definitions

* `SymbolTable.LeavesOthers`: what a later table has more is in one namespace;
* `SymbolTable.MakesSymbols`: and only symbols of that namespace were made;
* `SymbolTable.Shows`: a name stands for an external symbol;
* `SymbolTable.Declares`: a namespace is added, with external and internal symbols.

## Main results

* `SymbolTable.makesSymbols_performAll`: what requests for symbols of one namespace leave;
* `SymbolTable.exists_owns_performAll_iff` and `SymbolTable.shows_performAll_iff`: the names that
  stand for symbols afterwards, and those that stand for external ones;
* `SymbolTable.LeavesOthers.exists_made_nodup`: in a namespace that was empty every name made one
  symbol;
* `SymbolTable.declares_performAll`: making a namespace and then its symbols declares them.
-/

namespace AliasReader

namespace SymbolTable

variable {table after later : SymbolTable} {id other : NamespaceId} {name text : String}
  {symbol : SymbolId} {request : Request} {requests : List Request}

/-! ## Outside of the namespace -/

/-- All that a later table has more than an earlier one is in the namespace `id`. -/
structure LeavesOthers (id : NamespaceId) (table after : SymbolTable) : Prop where
  /-- The other namespaces stay. -/
  other : ∀ ns, ns ≠ id → after.namespace? ns = table.namespace? ns
  /-- The symbols stay, and further ones are made in the namespace. -/
  symbols : ∃ made : List String, after.symbols = table.symbols ++ made.map (⟨·, id⟩)

theorem LeavesOthers.trans (h : LeavesOthers id table after) (h' : LeavesOthers id after later) :
    LeavesOthers id table later := by
  obtain ⟨made, hmade⟩ := h.symbols
  obtain ⟨further, hfurther⟩ := h'.symbols
  refine ⟨fun ns hns => (h'.other ns hns).trans (h.other ns hns), made ++ further, ?_⟩
  rw [hfurther, hmade, List.map_append, List.append_assoc]

/-- A symbol of an earlier table has its name and its home in the later one. -/
theorem LeavesOthers.owns (h : LeavesOthers id table after) (howns : table.Owns other name symbol) :
    after.Owns other name symbol := by
  obtain ⟨made, hmade⟩ := h.symbols
  rw [SymbolTable.owns_iff] at howns ⊢
  rw [hmade, List.getElem?_append_left (List.getElem?_eq_some_iff.1 howns).1, howns]

/-- In the other namespaces no symbols are made. -/
theorem LeavesOthers.owns_iff (h : LeavesOthers id table after) (hother : other ≠ id) :
    after.Owns other name symbol ↔ table.Owns other name symbol := by
  refine ⟨fun howns => ?_, h.owns⟩
  obtain ⟨made, hmade⟩ := h.symbols
  rw [SymbolTable.owns_iff, hmade] at howns
  rw [SymbolTable.owns_iff]
  rcases Nat.lt_or_ge symbol.index table.symbols.length with hlt | hge
  · rwa [List.getElem?_append_left hlt] at howns
  · -- a symbol behind the earlier ones is at home in the namespace
    rw [List.getElem?_append_right hge, List.getElem?_map] at howns
    obtain ⟨_, -, heq⟩ := Option.map_eq_some_iff.1 howns
    exact absurd (congrArg SymbolEntry.home heq).symm hother

/-- The symbols of the other namespaces have the visibility that they had. -/
theorem LeavesOthers.visibility? (h : LeavesOthers id table after) (hother : other ≠ id)
    (howns : table.Owns other name symbol) :
    after.visibility? symbol = table.visibility? symbol := by
  rw [visibility?_eq, visibility?_eq, howns.1, (h.owns howns).1, Option.bind_some,
    Option.bind_some, external?, external?, h.other other hother]

/-- In the other namespaces names stand for what they did. -/
theorem LeavesOthers.lookup? (h : LeavesOthers id table after) (htable : table.WellFormed)
    (hafter : after.WellFormed) (hother : other ≠ id) (hid : table.hasNamespace other = true) :
    after.lookup? other text = table.lookup? other text := by
  apply htable.lookup?_congr hafter hid
  · rw [hasNamespace_iff, h.other other hother, ← hasNamespace_iff]
    exact hid
  · exact fun _ => h.owns_iff hother
  · exact fun _ => h.visibility? hother

/-- A namespace that is added leaves the others. -/
theorem leavesOthers_addNamespace (table : SymbolTable) (name : String) :
    LeavesOthers ⟨table.namespaces.length⟩ table ((table.noteNames [name]).addNamespace name) where
  other ns hns := (namespace?_addNamespace _ name ns).trans (if_neg hns)
  symbols := ⟨[], (List.append_nil _).symm⟩

/-! ## Inside of the namespace -/

/-- In a later table there are further symbols of the namespace `id`, and it may export more. The
namespaces are the same and are called the same. -/
structure MakesSymbols (id : NamespaceId) (table after : SymbolTable) : Prop
    extends LeavesOthers id table after where
  /-- There are as many namespaces. -/
  length : after.namespaces.length = table.namespaces.length
  /-- The index of names is the same. -/
  index : after.index = table.index
  /-- The namespaces are called what they were called. -/
  naming : ∀ ns, after.naming? ns = table.naming? ns

theorem MakesSymbols.trans (h : MakesSymbols id table after) (h' : MakesSymbols id after later) :
    MakesSymbols id table later where
  toLeavesOthers := h.toLeavesOthers.trans h'.toLeavesOthers
  length := h'.length.trans h.length
  index := h'.index.trans h.index
  naming ns := (h'.naming ns).trans (h.naming ns)

theorem makesSymbols_noteNames (id : NamespaceId) (table : SymbolTable) (names : List String) :
    MakesSymbols id table (table.noteNames names) where
  other _ _ := rfl
  symbols := ⟨[], (List.append_nil _).symm⟩
  length := rfl
  index := rfl
  naming _ := rfl

/-- A change of the namespace that keeps its names makes no symbol. -/
theorem makesSymbols_modify (id : NamespaceId) (table : SymbolTable)
    {change : NamespaceEntry → NamespaceEntry}
    (hchange : ∀ entry, (change entry).names = entry.names) :
    MakesSymbols id table (table.modify id change) where
  other ns hns := (namespace?_modify table id ns change).trans (if_neg hns)
  symbols := ⟨[], (List.append_nil _).symm⟩
  length := List.length_modify _ _ _
  index := rfl
  naming _ := naming?_modify hchange

theorem makesSymbols_addSymbol (id : NamespaceId) (table : SymbolTable) (name : String) :
    MakesSymbols id table (table.addSymbol id name) := by
  have hmodify := makesSymbols_modify id table
    (NamespaceEntry.names_bindSymbol name ⟨table.symbols.length⟩)
  exact ⟨⟨hmodify.other, [name], rfl⟩, hmodify.length, hmodify.index, hmodify.naming⟩

theorem makesSymbols_intern (table : SymbolTable) (id : NamespaceId) (name : String) :
    MakesSymbols id table (table.intern id name).2 := by
  have hnoted := makesSymbols_noteNames id table [name]
  rcases hentry : table.namespace? id with _ | entry
  · rw [intern_of_missing name hentry]
    exact hnoted
  · rcases hfind : entry.symbols.find? name with _ | bound
    · rw [intern_of_unbound hentry hfind]
      exact hnoted.trans (makesSymbols_addSymbol id _ name)
    · rw [intern_of_binds ⟨entry, hentry, hfind⟩]
      exact hnoted

/-- A request for a symbol of a namespace makes at most that symbol. -/
theorem makesSymbols_perform (h : request.IsFor id name) :
    MakesSymbols id table (table.perform request) := by
  have hintern := makesSymbols_intern table id name
  rcases h with rfl | rfl
  · exact hintern
  · rw [perform, internExternal_eq]
    rcases hmade : table.intern id name with ⟨_ | made, after⟩
    · rwa [hmade] at hintern
    · rw [hmade] at hintern
      exact hintern.trans (makesSymbols_modify id after (NamespaceEntry.names_exposeSymbol made))

/-- Requests for symbols of a namespace make symbols of that namespace only. -/
theorem makesSymbols_performAll (h : ∀ request ∈ requests, ∃ name, request.IsFor id name) :
    MakesSymbols id table (table.performAll requests) := by
  -- by induction on the requests, the first one first
  induction requests generalizing table with
  | nil => exact makesSymbols_noteNames id table []
  | cons request requests ih =>
    obtain ⟨name, hname⟩ := h request List.mem_cons_self
    exact (makesSymbols_perform hname).trans
      (ih fun request hrequest => h request (List.mem_cons_of_mem _ hrequest))

/-! ## Names that stand for symbols -/

/-- In a namespace a name stands for an external symbol. -/
def Shows (table : SymbolTable) (id : NamespaceId) (name : String) : Prop :=
  ∃ symbol, table.Owns id name symbol ∧ table.Exports id symbol

/-- A request for a symbol of an existing namespace is answered with one. -/
theorem exists_answer? (hid : table.hasNamespace id = true) (h : request.IsFor id name) :
    ∃ symbol, table.answer? request = some symbol := by
  obtain ⟨symbol, hsymbol, -⟩ := intern_spec hid name
  exact ⟨symbol, (answer?_of_isFor h).trans hsymbol⟩

/-- A symbol that a namespace exports was made in some namespace, under some name. -/
theorem Reachable.exists_owns_of_exports (h : table.Reachable)
    (hexports : table.Exports id symbol) : ∃ home name, table.Owns home name symbol := by
  obtain ⟨external, hexternal, hmem⟩ := hexports
  have hlt := h.externalMade id external hexternal symbol hmem
  exact ⟨_, _, (table.owns_iff _ _ symbol).2 (List.getElem?_eq_getElem hlt)⟩

/-- A name stands for a symbol after a request if it did before, or if that is requested. -/
theorem exists_owns_perform_iff (h : table.Reachable) (hid : table.hasNamespace id = true) :
    (∃ symbol, (table.perform request).Owns id name symbol) ↔
      (∃ symbol, table.Owns id name symbol) ∨ request.IsFor id name := by
  simp only [owns_perform h.wellFormed, exists_or, exists_and_left]
  exact or_congr Iff.rfl (and_iff_left_of_imp (exists_answer? hid))

/-- A name stands for an external symbol after a request if it did before, or if that symbol is
requested as an external one. -/
theorem shows_perform_iff (h : table.Reachable) (hid : table.hasNamespace id = true) :
    (table.perform request).Shows id name ↔
      table.Shows id name ∨ request = .internExternal id name := by
  have howns_iff : ∀ {other text symbol}, (table.perform request).Owns other text symbol ↔ _ :=
    owns_perform h.wellFormed request
  constructor
  · rintro ⟨symbol, howns, hexports⟩
    rcases (exports_perform request).1 hexports with hbefore | ⟨text, rfl, hanswer⟩
    · -- what was exported before was owned before, under the same name
      obtain ⟨home, text, hmade⟩ := h.exists_owns_of_exports hbefore
      have hkept := howns_iff.2 (Or.inl hmade)
      obtain ⟨rfl, rfl⟩ := howns.unique hkept
      exact Or.inl ⟨symbol, hmade, hbefore⟩
    · -- what is exported now is owned under the requested name
      have hmade := howns_iff.2 (Or.inr ⟨Or.inr rfl, hanswer⟩)
      obtain ⟨-, rfl⟩ := howns.unique hmade
      exact Or.inr rfl
  · rintro (⟨symbol, howns, hexports⟩ | rfl)
    · exact ⟨symbol, howns_iff.2 (Or.inl howns), (exports_perform request).2 (Or.inl hexports)⟩
    · have hfor : (Request.internExternal id name).IsFor id name := Or.inr rfl
      obtain ⟨symbol, hanswer⟩ := exists_answer? hid hfor
      exact ⟨symbol, howns_iff.2 (Or.inr ⟨hfor, hanswer⟩),
        (exports_perform _).2 (Or.inr ⟨name, rfl, hanswer⟩)⟩

/-- The names that stand for symbols after requests: those that did before, and the requested
ones. -/
theorem exists_owns_performAll_iff (h : table.Reachable) (hid : table.hasNamespace id = true) :
    (∃ symbol, (table.performAll requests).Owns id name symbol) ↔
      (∃ symbol, table.Owns id name symbol) ∨ ∃ request ∈ requests, request.IsFor id name := by
  -- the namespace is there for the later requests as well, since no request takes it away
  induction requests generalizing table with
  | nil => simp [performAll]
  | cons request requests ih =>
    have hstep := ih (h.perform request) (hasNamespace_of_length_le (length_le_perform request) hid)
    rw [exists_owns_perform_iff h hid] at hstep
    simp only [List.mem_cons, exists_eq_or_imp, ← or_assoc]
    exact hstep

/-- The names that stand for external symbols after requests: those that did before and the ones
that were requested to. -/
theorem shows_performAll_iff (h : table.Reachable) (hid : table.hasNamespace id = true) :
    (table.performAll requests).Shows id name ↔
      table.Shows id name ∨ .internExternal id name ∈ requests := by
  induction requests generalizing table with
  | nil => simp [performAll]
  | cons request requests ih =>
    have hstep := ih (h.perform request) (hasNamespace_of_length_le (length_le_perform request) hid)
    rw [shows_perform_iff h hid] at hstep
    rw [List.mem_cons, ← or_assoc, @eq_comm _ (Request.internExternal id name)]
    exact hstep

/-! ## Lookups and symbols -/

theorem WellFormed.lookup?_of_shows (h : table.WellFormed) (hshows : table.Shows id name) :
    ∃ symbol, table.lookup? id name = some (.found symbol .external) := by
  obtain ⟨symbol, howns, hexports⟩ := hshows
  exact ⟨symbol, (h.lookup?_eq_found_iff _ _ _ _).2
    ⟨howns, (visibility?_of_owns h howns).1 hexports⟩⟩

theorem WellFormed.lookup?_of_not_shows (h : table.WellFormed) (howns : table.Owns id name symbol)
    (hshows : ¬ table.Shows id name) :
    table.lookup? id name = some (.found symbol .internal) :=
  (h.lookup?_eq_found_iff _ _ _ _).2
    ⟨howns, (visibility?_of_owns h howns).2 fun hexports => hshows ⟨symbol, howns, hexports⟩⟩

theorem exists_owns_iff_mem :
    (∃ symbol, table.Owns id name symbol) ↔ ⟨name, id⟩ ∈ table.symbols := by
  rw [List.mem_iff_getElem?]
  constructor
  · rintro ⟨symbol, howns⟩
    exact ⟨symbol.index, (table.owns_iff id name symbol).1 howns⟩
  · rintro ⟨i, hi⟩
    exact ⟨⟨i⟩, (table.owns_iff id name ⟨i⟩).2 hi⟩

/-- In a namespace without symbols, symbols are made for different names: one for each name that
stands for a symbol afterwards. -/
theorem LeavesOthers.exists_made_nodup (h : LeavesOthers id table after) (hafter : after.WellFormed)
    (hempty : ∀ name symbol, ¬ table.Owns id name symbol) :
    ∃ made : List String, made.Nodup ∧
      (∀ name, name ∈ made ↔ ∃ symbol, after.Owns id name symbol) ∧
      after.symbols = table.symbols ++ made.map (⟨·, id⟩) := by
  obtain ⟨made, hmade⟩ := h.symbols
  refine ⟨made, ?_, ?_, hmade⟩
  · -- a name that is made twice has two symbols
    rw [List.nodup_iff_pairwise_ne, List.pairwise_iff_getElem]
    intro i j hi hj hlt heq
    -- the symbols that were made stand behind the earlier ones, in the order of their names
    have howns : ∀ k, (hk : k < made.length) →
        after.Owns id made[k] ⟨table.symbols.length + k⟩ := by
      intro k hk
      rw [SymbolTable.owns_iff, hmade, List.getElem?_append_right (Nat.le_add_right _ _)]
      simp [hk]
    have hsame := hafter.owns_inj (howns i hi) (heq ▸ howns j hj)
    have hindex := congrArg SymbolId.index hsame
    dsimp only at hindex
    omega
  · intro name
    have hbefore : (⟨name, id⟩ : SymbolEntry) ∉ table.symbols := fun hmem =>
      (exists_owns_iff_mem.2 hmem).elim (hempty name)
    rw [exists_owns_iff_mem, hmade, List.mem_append, or_iff_right hbefore, List.mem_map]
    simp

/-! ## Namespaces with their symbols -/

/-- A namespace `id` is added under a name. Its symbols are those of some names, and the names are
`exported` or `interned` or both. Nothing else changes. -/
structure Declares (table : SymbolTable) (id : NamespaceId) (name : String)
    (exported interned : String → Prop) (after : SymbolTable) : Prop where
  /-- There is one more namespace. -/
  length : after.namespaces.length = table.namespaces.length + 1
  /-- It is the last one. -/
  last : id.index = table.namespaces.length
  /-- Its primary name is the given one. -/
  primary : after.name? id = some name
  /-- It has no nicknames. -/
  further : after.nicknames? id = some []
  /-- The name meant nothing, -/
  unused : table.find? (.named name) = none
  /-- and means the namespace now. -/
  find : after.find? (.named name) = some id
  /-- Other names and the other handles mean what they did. -/
  designators : ∀ designator, designator ≠ .named name → designator ≠ .handle id →
    after.find? designator = table.find? designator
  /-- Exported names stand for external symbols. -/
  external : ∀ text, exported text →
    ∃ symbol, after.lookup? id text = some (.found symbol .external)
  /-- Names that are interned only stand for internal symbols. -/
  internal : ∀ text, interned text → ¬ exported text →
    ∃ symbol, after.lookup? id text = some (.found symbol .internal)
  /-- Other names stand for nothing. -/
  missing : ∀ text, ¬ interned text → ¬ exported text → after.lookup? id text = some .missing
  /-- The symbols stay, and one is added for each of the names. -/
  symbols : ∃ made : List String, made.Nodup ∧
    (∀ text, text ∈ made ↔ exported text ∨ interned text) ∧
    after.symbols = table.symbols ++ made.map (⟨·, id⟩)
  /-- The earlier namespaces stay. -/
  namespaces : ∀ other, table.hasNamespace other = true →
    after.namespace? other = table.namespace? other
  /-- In the earlier namespaces names stand for what they did. -/
  lookup : ∀ other, table.hasNamespace other = true → ∀ text,
    after.lookup? other text = table.lookup? other text
  /-- The earlier symbols have the visibility that they had. -/
  visibility : ∀ symbol, table.hasSymbol symbol = true →
    after.visibility? symbol = table.visibility? symbol

/-- The requests for external and then for internal symbols of a namespace. -/
def declarations (id : NamespaceId) (external internal : List String) : List Request :=
  external.map (.internExternal id) ++ internal.map (.intern id)

section Declarations

variable {external internal : List String}

theorem exists_isFor_of_mem_declarations (h : request ∈ declarations id external internal) :
    ∃ name, request.IsFor id name := by
  rcases List.mem_append.1 h with hmem | hmem <;> obtain ⟨text, -, rfl⟩ := List.mem_map.1 hmem
  · exact ⟨text, Or.inr rfl⟩
  · exact ⟨text, Or.inl rfl⟩

theorem internExternal_mem_declarations :
    .internExternal id text ∈ declarations id external internal ↔ text ∈ external := by
  simp [declarations]

theorem exists_isFor_declarations_iff :
    (∃ request ∈ declarations id external internal, request.IsFor id text) ↔
      text ∈ external ∨ text ∈ internal := by
  simp only [declarations, List.mem_append, List.mem_map, Request.IsFor]
  constructor
  · rintro ⟨_, ⟨given, hgiven, rfl⟩ | ⟨given, hgiven, rfl⟩, hfor⟩
    · simp_all
    · simp_all
  · rintro (hmem | hmem)
    · exact ⟨_, Or.inl ⟨text, hmem, rfl⟩, Or.inr rfl⟩
    · exact ⟨_, Or.inr ⟨text, hmem, rfl⟩, Or.inl rfl⟩

/-- A namespace without symbols has those that it is asked for. -/
theorem exists_owns_declarations_iff (h : table.Reachable) (hid : table.hasNamespace id = true)
    (hempty : ∀ name symbol, ¬ table.Owns id name symbol) :
    (∃ symbol, (table.performAll (declarations id external internal)).Owns id text symbol) ↔
      text ∈ external ∨ text ∈ internal := by
  rw [exists_owns_performAll_iff h hid, exists_isFor_declarations_iff]
  exact or_iff_right fun ⟨symbol, howns⟩ => hempty text symbol howns

/-- Of a namespace without symbols those are external that are asked for as such. -/
theorem shows_declarations_iff (h : table.Reachable) (hid : table.hasNamespace id = true)
    (hempty : ∀ name symbol, ¬ table.Owns id name symbol) :
    (table.performAll (declarations id external internal)).Shows id text ↔ text ∈ external := by
  rw [shows_performAll_iff h hid, internExternal_mem_declarations]
  exact or_iff_right fun ⟨symbol, howns, _⟩ => hempty text symbol howns

end Declarations

/-- The namespace that is made next has no symbols yet. -/
theorem WellFormed.not_owns_next (h : table.WellFormed) :
    ¬ table.Owns ⟨table.namespaces.length⟩ name symbol := fun howns =>
  ne_next (h.hasNamespace_of_owns howns) rfl

/-- A table declares a namespace if the namespace is added to it, with its name and its symbols, and
the other namespaces are left. -/
theorem LeavesOthers.declares (hleaves : LeavesOthers ⟨table.namespaces.length⟩ table after)
    (htable : table.WellFormed) (hafter : after.WellFormed) {exported interned : String → Prop}
    (hunused : table.index.find? name = none)
    (hlength : after.namespaces.length = table.namespaces.length + 1)
    (hindex : after.index = table.index.insert name ⟨table.namespaces.length⟩)
    (hnaming : after.naming? ⟨table.namespaces.length⟩ = some (name, []))
    (howns : ∀ text, (∃ symbol, after.Owns ⟨table.namespaces.length⟩ text symbol) ↔
      exported text ∨ interned text)
    (hshows : ∀ text, after.Shows ⟨table.namespaces.length⟩ text ↔ exported text) :
    Declares table ⟨table.namespaces.length⟩ name exported interned after := by
  constructor
  case length => exact hlength
  case last => rfl
  case primary => exact name?_of_naming? hnaming
  case further => exact nicknames?_of_naming? hnaming
  case unused => exact hunused
  case find => rw [find?, hindex, Dictionary.find?_insert_self]
  case designators =>
    rintro (other | text) hname hhandle
    · have hother : other ≠ ⟨table.namespaces.length⟩ := fun heq =>
        hhandle (congrArg Designator.handle heq)
      have hsame : after.hasNamespace other = table.hasNamespace other := by
        rw [Bool.eq_iff_iff, hasNamespace_iff, hasNamespace_iff, hleaves.other other hother]
      rw [find?, find?, hsame]
    · have htext : text ≠ name := fun heq => hname (congrArg Designator.named heq)
      rw [find?, find?, hindex, Dictionary.find?_insert_of_ne _ _ htext]
  case external =>
    intro text htext
    exact hafter.lookup?_of_shows ((hshows text).2 htext)
  case internal =>
    intro text htext hnot
    obtain ⟨symbol, hsymbol⟩ := (howns text).2 (Or.inr htext)
    exact ⟨symbol, hafter.lookup?_of_not_shows hsymbol (mt (hshows text).1 hnot)⟩
  case missing =>
    intro text hinternal hexternal
    have hid : after.hasNamespace ⟨table.namespaces.length⟩ = true :=
      hasNamespace_iff_naming?.2 ⟨_, hnaming⟩
    apply (hafter.lookup?_eq_missing_iff hid text).2
    intro symbol hsymbol
    exact ((howns text).1 ⟨symbol, hsymbol⟩).elim hexternal hinternal
  case symbols =>
    obtain ⟨made, hnodup, hmem, hsymbols⟩ :=
      hleaves.exists_made_nodup hafter fun _ _ => htable.not_owns_next
    exact ⟨made, hnodup, fun text => (hmem text).trans (howns text), hsymbols⟩
  case namespaces =>
    intro other hother
    exact hleaves.other other (ne_next hother)
  case lookup =>
    intro other hother text
    exact hleaves.lookup? htable hafter (ne_next hother) hother
  case visibility =>
    intro symbol hsymbol
    obtain ⟨entry, hfound⟩ := hasSymbol_iff.1 hsymbol
    have hmade := (table.owns_iff entry.home entry.name symbol).2 hfound
    exact hleaves.visibility? (ne_next (htable.hasNamespace_of_owns hmade)) hmade

/-- Making a namespace with a name that means nothing, and then external and internal symbols in it,
declares the namespace with these symbols. -/
theorem declares_performAll (h : table.Reachable) (hunused : table.index.find? name = none)
    {external internal : List String} {exported interned : String → Prop}
    (hexported : ∀ text, text ∈ external ↔ exported text)
    (hinterned : ∀ text, text ∈ internal ↔ interned text) :
    let id : NamespaceId := ⟨table.namespaces.length⟩
    Declares table id name exported interned
      (((table.noteNames [name]).addNamespace name).performAll
        (declarations id external internal)) := by
  intro id
  let added := (table.noteNames [name]).addNamespace name
  let requests := declarations id external internal
  have hadded : added.Reachable := by
    have hcreate := h.perform (.create name)
    rwa [perform, create_of_free hunused] at hcreate
  have hentry : added.namespace? id = some (.ofName name) :=
    (namespace?_addNamespace _ name id).trans (if_pos rfl)
  have hid : added.hasNamespace id = true := (hasNamespace_iff _ _).2 ⟨_, hentry⟩
  -- adding the namespace makes no symbol, so at first it has none
  have hempty : ∀ text symbol, ¬ added.Owns id text symbol := fun _ _ =>
    h.wellFormed.not_owns_next
  have hmakes : MakesSymbols id added (added.performAll requests) :=
    makesSymbols_performAll fun _ => exists_isFor_of_mem_declarations
  apply ((leavesOthers_addNamespace table name).trans hmakes.toLeavesOthers).declares h.wellFormed
    (hadded.performAll requests).wellFormed hunused
  case hlength => exact hmakes.length.trans List.length_append
  case hindex => exact hmakes.index
  case hnaming =>
    rw [hmakes.naming, naming?, hentry]
    rfl
  case howns =>
    intro text
    exact (exists_owns_declarations_iff hadded hid hempty).trans
      (or_congr (hexported text) (hinterned text))
  case hshows =>
    intro text
    exact (shows_declarations_iff hadded hid hempty).trans (hexported text)

end SymbolTable

end AliasReader
