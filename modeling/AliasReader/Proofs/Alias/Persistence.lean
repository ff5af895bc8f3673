import AliasReader.Proofs.Alias.ExposedBody
import AliasReader.Proofs.Alias.Visibility
import AliasReader.Proofs.Namespace.SymbolHistory
import AliasReader.Proofs.Reader.MadeSymbols
import AliasReader.Proofs.Reader.Simulation

/-!
# References That Keep Resolving

A symbol table only grows: names lead to the namespaces that they led to, bindings stay, and what
is external stays external. A reading, wherever it ends, does nothing but intern names. So a token
that names a symbol goes on to name it, until a namespace is renamed or the aliases that the token
is resolved by are replaced.

## Main definitions

* `World` and `Event`: what references depend on, and what may happen to it;
* `Event.Unsettles`: the events that may change what a token names.

## Main results

* `Reference.resolveToken?_performAll`: requests other than renamings leave what a token names;
* `Reader.exists_hostAfter`: a reading interns names and does nothing else to the symbol table;
* `World.names_performAll`: a token names the same symbol after any course of events that do not
  unsettle it.
-/

namespace AliasReader

/-! ## Requests other than renamings -/

namespace SymbolTable

variable {table : SymbolTable} {request : Request}

/-- A request other than a renaming leaves what a designator means. -/
theorem find?_perform (h : table.WellFormed) (hrequest : request.renames = false)
    {designator : Designator} {id : NamespaceId} (hfind : table.find? designator = some id) :
    (table.perform request).find? designator = some id := by
  have hid := h.hasNamespace_of_find? hfind
  have hlength := @length_le_perform table request
  cases designator with
  | handle other =>
    obtain ⟨hother, rfl⟩ : table.hasNamespace other = true ∧ other = id := by
      simpa [find?] using hfind
    simp [find?, hasNamespace_of_length_le hlength hother]
  | named name =>
    -- the namespace goes by the name still
    refine ((h.perform request).index_iff name id).2 ?_
    rw [goesBy_iff_naming?, naming?_perform hrequest hid, ← goesBy_iff_naming?]
    exact (h.index_iff name id).1 hfind

/-- An external symbol stays external, whatever is requested. -/
theorem visibility?_perform (h : table.WellFormed) {id : NamespaceId} {name : String}
    {symbol : SymbolId} (howns : table.Owns id name symbol)
    (hexternal : table.visibility? symbol = some .external) :
    (table.perform request).visibility? symbol = some .external := by
  have hexports : table.Exports id symbol := by
    by_contra hnot
    rw [(visibility?_of_owns h howns).2 hnot] at hexternal
    cases hexternal
  have hafter : (table.perform request).Owns id name symbol :=
    (owns_perform h request).2 (Or.inl howns)
  exact (visibility?_of_owns (h.perform request) hafter).1
    ((exports_perform request).2 (Or.inl hexports))

end SymbolTable

namespace Reference

variable {host : SymbolTable} {registry : AliasRegistry} {id : NamespaceId} {token : String}
  {symbol : SymbolId}

/-- An alias goes on to stand for a namespace after a request other than a renaming. -/
theorem Points.perform (hhost : host.WellFormed) {request : SymbolTable.Request}
    (hrequest : request.renames = false) {reference : Reference} {target : NamespaceId}
    (h : Points host registry id token reference target) :
    Points (host.perform request) registry id token reference target := by
  obtain ⟨hparse, hresolve⟩ := h
  obtain ⟨designator, hstored, hfind⟩ := AliasRegistry.resolve_eq_ok_iff.1 hresolve
  -- the alias keeps its designator, which means the same still
  have hafter := SymbolTable.find?_perform hhost hrequest hfind
  exact ⟨hparse, AliasRegistry.resolve_eq_ok_iff.2 ⟨designator, hstored, hafter⟩⟩

/-- A request other than a renaming leaves what a token names. -/
theorem resolveToken?_perform (hhost : host.WellFormed) {request : SymbolTable.Request}
    (hrequest : request.renames = false)
    (h : resolveToken? host registry id token = some (.ok symbol)) :
    resolveToken? (host.perform request) registry id token = some (.ok symbol) := by
  -- what the token names is told by an alias, a home and, with one colon, a visibility
  obtain ⟨reference, target, hpoints, howns, hexternal⟩ := (resolveToken?_eq_ok_iff hhost).1 h
  refine (resolveToken?_eq_ok_iff (hhost.perform request)).2
    ⟨reference, target, hpoints.perform hhost hrequest, ?_, fun hany => ?_⟩
  · exact (SymbolTable.owns_perform hhost request).2 (Or.inl howns)
  · exact SymbolTable.visibility?_perform hhost howns (hexternal hany)

/-- Requests other than renamings leave what a token names. -/
theorem resolveToken?_performAll (hhost : host.Reachable)
    (h : resolveToken? host registry id token = some (.ok symbol))
    {requests : List SymbolTable.Request} (hrequests : ∀ asked ∈ requests, asked.renames = false) :
    resolveToken? (host.performAll requests) registry id token = some (.ok symbol) := by
  induction requests generalizing host with
  | nil => exact h
  | cons asked rest ih =>
    have hasked := hrequests asked List.mem_cons_self
    exact ih (hhost.perform asked) (resolveToken?_perform hhost.wellFormed hasked h)
      fun other hother => hrequests other (List.mem_cons_of_mem asked hother)

end Reference

/-! ## Events -/

/-- What references depend on: the namespaces and symbols, and the alias registries. -/
structure World where
  /-- The namespaces and symbols. -/
  host : SymbolTable
  /-- The alias registries. -/
  stores : Stores

/-- How much is read. -/
inductive ReadingExtent where
  /-- One form. -/
  | form
  /-- The next datum. -/
  | datum
  /-- All data up to the end of the input. -/
  | all
deriving DecidableEq, Repr

/-- Something that happens in a world. -/
inductive Event where
  /-- A request is made to the symbol table. -/
  | request (asked : SymbolTable.Request)
  /-- The aliases of a namespace in a registry are replaced, by aliases as they are. -/
  | setAliases (store : StoreId) (id : NamespaceId) (pairs : List (Designator × String))
  /-- The aliases of a namespace in a registry are replaced, by folded ones. -/
  | register (store : StoreId) (id : NamespaceId) (pairs : List (Designator × String))
    (policy : CasePolicy)
  /-- A text is read from some place on, with a read table and a current namespace. -/
  | read (extent : ReadingExtent) (cursor : Cursor) (table : ReadTable) (current : NamespaceId)

/-- The symbol table that a step leaves, whatever it comes to. -/
def Outcome.hostAfter {α : Type} (before : SymbolTable) : Outcome α → SymbolTable
  | value _ reader => reader.host
  | failed _ reader => reader.host
  | dangling reader => reader.host
  | exhausted => before

/-- The symbol table that a reading leaves. -/
def Reader.hostAfter (stores : Stores) (reader : Reader) : ReadingExtent → SymbolTable
  | .form => (reader.readForm stores).hostAfter reader.host
  | .datum => (reader.readNext stores).hostAfter reader.host
  | .all => (reader.readAll stores).hostAfter reader.host

namespace World

/-- The world after an event. -/
def perform (world : World) : Event → World
  | .request asked => { world with host := world.host.perform asked }
  | .setAliases store id pairs =>
      { world with
        stores := Action.replaceStore world.stores store ((world.stores store).set id pairs) }
  | .register store id pairs policy =>
      { world with stores := Action.registerIn store id pairs policy world.stores }
  | .read extent cursor table current =>
      let reader : Reader := ⟨cursor, table, world.host, current⟩
      { world with host := reader.hostAfter world.stores extent }

/-- The world after a course of events. -/
def performAll (world : World) (events : List Event) : World :=
  events.foldl perform world

/-- By the aliases of a namespace in a registry, a token names a symbol. -/
def Names (world : World) (store : StoreId) (id : NamespaceId) (token : String)
    (symbol : SymbolId) : Prop :=
  Reference.resolveToken? world.host (world.stores store) id token = some (.ok symbol)

end World

namespace Event

/-- The events that may change what a token names by the aliases of a namespace in a registry:
renamings, and replacements of these aliases. -/
def Unsettles (store : StoreId) (id : NamespaceId) : Event → Prop
  | .request asked => asked.renames = true
  | .setAliases other ns _ => other = store ∧ ns = id
  | .register other ns _ _ => other = store ∧ ns = id
  | .read _ _ _ _ => False

/-- Texts are read with ordinary tables. -/
def IsOrdinary : Event → Prop
  | .read _ _ table _ => table.Ordinary
  | _ => True

end Event

/-! ## Readings -/

/-- What was interned only was requested only. -/
theorem Outcome.Interned.exists_hostAfter {α : Type} {reader : Reader} {outcome : Outcome α}
    (h : outcome.Interned reader) :
    ∃ names, outcome.hostAfter reader.host = reader.host.internAll reader.current names := by
  cases outcome with
  | value result after =>
    obtain ⟨names, -, hnames⟩ := h.host
    exact ⟨names, hnames⟩
  | failed failure after =>
    obtain ⟨names, -, hnames⟩ := h.host
    exact ⟨names, hnames⟩
  | dangling after =>
    obtain ⟨names, -, hnames⟩ := h.host
    exact ⟨names, hnames⟩
  | exhausted => exact ⟨[], rfl⟩

/-- A reading interns names and does nothing else to the symbol table, wherever it ends. -/
theorem Reader.exists_hostAfter (stores : Stores) {reader : Reader}
    (htable : reader.table.Ordinary) (extent : ReadingExtent) :
    ∃ names, reader.hostAfter stores extent = reader.host.internAll reader.current names := by
  cases extent with
  | form => exact (readForm_interned stores htable).exists_hostAfter
  | datum => exact (readNext_interned stores htable).exists_hostAfter
  | all => exact (readAll_interned stores htable).exists_hostAfter

/-! ## Replaced aliases -/

namespace Action

variable {stores : Stores} {store other : StoreId} {id ns : NamespaceId}

/-- Replacing the aliases of one namespace leaves those of every other one, and every other
registry. -/
theorem table?_replaceStore_of_ne (hother : ¬ (other = store ∧ ns = id))
    (pairs : List (Designator × String)) :
    (replaceStore stores other ((stores other).set ns pairs) store).table? id =
      (stores store).table? id := by
  unfold replaceStore
  split
  next hstore =>
    subst hstore
    have hid : ¬ id = ns := fun heq => hother ⟨rfl, heq.symm⟩
    rw [AliasRegistry.set, AliasRegistry.table?_replace, if_neg hid]
  next => rfl

/-- Giving folded aliases replaces aliases by the folded ones, or does nothing. -/
theorem registerIn_eq (stores : Stores) (store : StoreId) (id : NamespaceId)
    (pairs : List (Designator × String)) (policy : CasePolicy) :
    registerIn store id pairs policy stores = stores ∨
      ∃ folded, registerIn store id pairs policy stores =
        replaceStore stores store ((stores store).set id folded) := by
  unfold registerIn AliasRegistry.register
  cases AliasRegistry.foldPairs policy pairs with
  | error failure => exact Or.inl rfl
  | ok folded => exact Or.inr ⟨folded, rfl⟩

end Action

/-! ## Courses of events -/

namespace World

variable {world : World} {store : StoreId} {id : NamespaceId} {token : String} {symbol : SymbolId}

/-- A world in which other aliases of the namespace are the same names the same symbols. -/
theorem Names.of_table?_eq {stores : Stores} (h : world.Names store id token symbol)
    (htable : (stores store).table? id = (world.stores store).table? id) :
    Names { world with stores } store id token symbol := by
  unfold Names
  rw [AliasRegistry.resolveToken?_congr htable]
  exact h

/-- Every event leaves a symbol table that was made by requests. -/
theorem reachable_perform (hhost : world.host.Reachable) {event : Event}
    (hordinary : event.IsOrdinary) : (world.perform event).host.Reachable := by
  cases event with
  | request asked => exact hhost.perform asked
  | setAliases other ns pairs => exact hhost
  | register other ns pairs policy => exact hhost
  | read extent cursor table current =>
    obtain ⟨names, hnames⟩ := @Reader.exists_hostAfter world.stores
      ⟨cursor, table, world.host, current⟩ hordinary extent
    rw [perform, hnames]
    exact hhost.performAll _

/-- An event that does not unsettle a token leaves what it names. -/
theorem Names.perform (hhost : world.host.Reachable) {event : Event}
    (hordinary : event.IsOrdinary) (hsettled : ¬ event.Unsettles store id)
    (h : world.Names store id token symbol) :
    (world.perform event).Names store id token symbol := by
  cases event with
  | request asked =>
    exact Reference.resolveToken?_perform hhost.wellFormed (Bool.not_eq_true _ ▸ hsettled) h
  | setAliases other ns pairs =>
    exact h.of_table?_eq (Action.table?_replaceStore_of_ne hsettled pairs)
  | register other ns pairs policy =>
    refine h.of_table?_eq ?_
    rcases Action.registerIn_eq world.stores other ns pairs policy with heq | ⟨folded, heq⟩
    · rw [heq]
    · rw [heq]
      exact Action.table?_replaceStore_of_ne hsettled folded
  | read extent cursor table current =>
    obtain ⟨names, hnames⟩ := @Reader.exists_hostAfter world.stores
      ⟨cursor, table, world.host, current⟩ hordinary extent
    -- the reading is a course of requests to make symbols, none of which renames
    unfold Names
    rw [World.perform, hnames]
    refine Reference.resolveToken?_performAll hhost h fun asked hasked => ?_
    obtain ⟨name, -, rfl⟩ := List.mem_map.1 hasked
    rfl

/-- A token that names a symbol names it for good. After any course of requests, granted or
refused, of replacements of aliases, and of readings of any texts with ordinary tables, it names the
same symbol, as long as no namespace is renamed and the aliases that it is resolved by are not
replaced; nothing but that can change what it names. -/
theorem names_performAll (hhost : world.host.Reachable) (h : world.Names store id token symbol)
    {events : List Event} (hordinary : ∀ event ∈ events, event.IsOrdinary) :
    ((∀ event ∈ events, ¬ event.Unsettles store id) →
      (world.performAll events).Names store id token symbol) ∧
    (¬ (world.performAll events).Names store id token symbol →
      ∃ event ∈ events, event.Unsettles store id) := by
  have hstays : (∀ event ∈ events, ¬ event.Unsettles store id) →
      (world.performAll events).Names store id token symbol := by
    intro hsettled
    -- by induction on the events, each of which leaves the table reachable
    induction events generalizing world with
    | nil => exact h
    | cons event rest ih =>
      have hevent := hordinary event List.mem_cons_self
      exact ih (reachable_perform hhost hevent)
        (h.perform hhost hevent (hsettled event List.mem_cons_self))
        (fun other hother => hordinary other (List.mem_cons_of_mem event hother))
        fun other hother => hsettled other (List.mem_cons_of_mem event hother)
  refine ⟨hstays, fun hchanged => ?_⟩
  by_contra hnone
  exact hchanged (hstays fun event hevent hunsettles => hnone ⟨event, hevent, hunsettles⟩)

/-- An internal symbol, named with two colons, while it is exported, a namespace is made and another
one refused, the aliased namespace gets aliases of its own, and two texts are read, of which the
first one fails in the middle of a list and the second one in a namespace that does not exist. -/
theorem names_performAll_exported :
    let world : World := ⟨Reference.libraryHost, fun _ => Reference.libraryAliases⟩
    let table := ReadTable.standard.installSentinel '$' none ⟨0⟩
    let events : List Event := [.request (.internExternal ⟨0⟩ "PRIV"), .request (.create "NEW"),
      .request (.create "LIB"), .setAliases ⟨0⟩ ⟨0⟩ [(.named "NEW", "L")],
      .register ⟨0⟩ ⟨2⟩ [(.named "LIB", "l")] .invert,
      .read .all (.ofString "priv (pub $l:gone b") table ⟨1⟩,
      .read .form (.ofString "x") table ⟨7⟩]
    world.host.Reachable ∧ world.Names ⟨0⟩ ⟨1⟩ "L::PRIV" ⟨1⟩ ∧
      (∀ event ∈ events, event.IsOrdinary) ∧ (∀ event ∈ events, ¬ event.Unsettles ⟨0⟩ ⟨1⟩) ∧
      (world.performAll events).Names ⟨0⟩ ⟨1⟩ "L::PRIV" ⟨1⟩ := by
  intro world table events
  have hhost : world.host.Reachable := SymbolTable.Reachable.empty.performAll _
  have hnames : world.Names ⟨0⟩ ⟨1⟩ "L::PRIV" ⟨1⟩ := by
    unfold Names
    decide
  have htable : ReadTable.Ordinary table :=
    (ReadTable.ordinary_standard .upcase).installSentinel (by simp) '$' ⟨0⟩
  have hordinary : ∀ event ∈ events, event.IsOrdinary := by
    simp [events, Event.IsOrdinary, htable]
  have hsettled : ∀ event ∈ events, ¬ event.Unsettles ⟨0⟩ ⟨1⟩ := by
    simp [events, Event.Unsettles, SymbolTable.Request.renames]
  exact ⟨hhost, hnames, hordinary, hsettled,
    (names_performAll hhost hnames hordinary).1 hsettled⟩

end World

end AliasReader
