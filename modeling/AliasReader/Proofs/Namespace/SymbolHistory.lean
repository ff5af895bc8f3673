import AliasReader.Proofs.Namespace.Exports
import Mathlib.Data.List.Induction

/-!
# The History of Symbols

What a symbol table knows about symbols can be told from the requests that it was made by. A
request for a name is answered with the symbol of that name, always the same one; a namespace
exports a symbol exactly when it was asked to, at any time. Renamings play no part in it.

A request that names no namespace has no answer and counts as not made.

## Main definitions

* `SymbolTable.answer?`: the symbol that a request is answered with;
* `SymbolTable.Answered`: a request was answered with a symbol in the course of requests.

## Main results

* `SymbolTable.owns_performAll_iff` and `SymbolTable.exports_performAll_iff`: the symbols and the
  exports of a table in terms of the requests;
* `SymbolTable.lookup?_of_exported`, `SymbolTable.lookup?_of_interned` and
  `SymbolTable.lookup?_of_never`: what a name stands for, by the requests for it.
-/

namespace AliasReader

namespace SymbolTable

/-! ## What one request adds -/

section Request

variable {table : SymbolTable} {id : NamespaceId} {name : String} {symbol : SymbolId}

/-- A namespace exports a symbol. -/
def Exports (table : SymbolTable) (id : NamespaceId) (symbol : SymbolId) : Prop :=
  ∃ external, table.external? id = some external ∧ symbol ∈ external

/-- The symbol that a request is answered with. Only requests to make a symbol are answered with
one, and only in a namespace that exists. -/
def answer? (table : SymbolTable) : Request → Option SymbolId
  | .create _ => none
  | .intern id name => (table.intern id name).1
  | .internExternal id name => (table.internExternal id name).1
  | .rename _ _ _ => none

/-- A request is for the symbol of a name in a namespace. -/
def Request.IsFor (id : NamespaceId) (name : String) (request : Request) : Prop :=
  request = .intern id name ∨ request = .internExternal id name

/-- Exporting a symbol answers what interning it answers. -/
theorem answer?_internExternal (table : SymbolTable) (id : NamespaceId) (name : String) :
    table.answer? (.internExternal id name) = (table.intern id name).1 := by
  rw [answer?, internExternal_eq]
  rcases table.intern id name with ⟨_ | _, _⟩ <;> rfl

theorem answer?_of_isFor {request : Request} (h : request.IsFor id name) :
    table.answer? request = (table.intern id name).1 := by
  rcases h with rfl | rfl
  · rfl
  · exact table.answer?_internExternal id name

/-- A symbol that is interned is owned from then on, and no other one in addition. -/
theorem owns_intern (h : table.WellFormed) (asked : NamespaceId) (given : String) :
    (table.intern asked given).2.Owns id name symbol ↔
      table.Owns id name symbol ∨
        ((table.intern asked given).1 = some symbol ∧ id = asked ∧ name = given) := by
  rcases hentry : table.namespace? asked with _ | entry
  · rw [intern_of_missing given hentry]
    simp [Owns, home?, symbolName?, noteNames]
  · rcases hfind : entry.symbols.find? given with _ | bound
    · rw [intern_of_unbound hentry hfind, owns_addSymbol, or_comm]
      refine or_congr Iff.rfl ?_
      simp only [Option.some.injEq, eq_comm (a := symbol), noteNames]
      tauto
    · -- the name is bound, so its symbol is owned already
      have hbinds : table.Binds asked given bound := ⟨entry, hentry, hfind⟩
      rw [intern_of_binds hbinds]
      refine (or_iff_left_of_imp ?_).symm
      rintro ⟨hsymbol, rfl, rfl⟩
      obtain rfl := Option.some.inj hsymbol
      exact (h.binds_iff _ _ _).1 hbinds

theorem owns_internExternal (h : table.WellFormed) (asked : NamespaceId) (given : String) :
    (table.internExternal asked given).2.Owns id name symbol ↔
      table.Owns id name symbol ∨
        ((table.intern asked given).1 = some symbol ∧ id = asked ∧ name = given) := by
  rw [← owns_intern h, internExternal_eq]
  -- exposing a symbol leaves the list of symbols
  rcases table.intern asked given with ⟨_ | _, _⟩ <;> exact Iff.rfl

/-- Making a namespace makes no symbol. -/
theorem symbols_create (table : SymbolTable) (text : String) :
    (table.create text).2.symbols = table.symbols := by
  rcases hfind : table.index.find? text with _ | owner
  · rw [create_of_free hfind]
    rfl
  · rw [create_of_taken hfind]
    rfl

/-- A renaming makes no symbol. -/
theorem symbols_rename (table : SymbolTable) (asked : NamespaceId) (text : String)
    (nicknames : List String) : (table.rename asked text nicknames).2.symbols = table.symbols := by
  rcases hconflict : table.conflict? asked (text :: nicknames) with _ | conflict
  · rcases hentry : table.namespace? asked with _ | entry
    · rw [rename_of_missing hconflict hentry]
      rfl
    · rw [rename_of_free hconflict hentry]
      rfl
  · rw [rename_of_conflict hconflict]
    rfl

/-- A renaming leaves the external symbols of all namespaces. -/
theorem external?_rename (table : SymbolTable) (asked other : NamespaceId) (text : String)
    (nicknames : List String) :
    (table.rename asked text nicknames).2.external? other = table.external? other := by
  rcases hconflict : table.conflict? asked (text :: nicknames) with _ | conflict
  · rcases hentry : table.namespace? asked with _ | entry
    · rw [rename_of_missing hconflict hentry]
      rfl
    · rw [rename_of_free hconflict hentry]
      -- the index plays no part in what is external
      exact external?_modify (NamespaceEntry.external_withNames text nicknames)
  · rw [rename_of_conflict hconflict]
    rfl

/-- A request adds the symbol that it is answered with, unless it is there. -/
theorem owns_perform (h : table.WellFormed) (request : Request) :
    (table.perform request).Owns id name symbol ↔
      table.Owns id name symbol ∨
        (request.IsFor id name ∧ table.answer? request = some symbol) := by
  cases request with
  | create text => simp [perform, owns_iff, symbols_create, Request.IsFor]
  | intern asked given =>
    rw [perform, owns_intern h]
    refine or_congr Iff.rfl ?_
    simp only [Request.IsFor, answer?, Request.intern.injEq, reduceCtorEq, or_false,
      eq_comm (a := id), eq_comm (a := name)]
    tauto
  | internExternal asked given =>
    rw [perform, owns_internExternal h]
    refine or_congr Iff.rfl ?_
    simp only [Request.IsFor, answer?_internExternal, Request.internExternal.injEq, reduceCtorEq,
      false_or, eq_comm (a := id), eq_comm (a := name)]
    tauto
  | rename asked text nicknames => simp [perform, owns_iff, symbols_rename, Request.IsFor]

/-- A namespace that exists exports a symbol that is exposed in it. -/
theorem exports_expose (table : SymbolTable) (asked : NamespaceId) (exposed : SymbolId) :
    (table.expose asked exposed).Exports id symbol ↔
      table.Exports id symbol ∨
        (id = asked ∧ symbol = exposed ∧ table.hasNamespace asked = true) := by
  unfold Exports external?
  rw [expose, namespace?_modify]
  by_cases hid : id = asked
  · subst hid
    rw [hasNamespace_iff]
    rcases table.namespace? id with _ | entry
    · simp
    · simp [NamespaceEntry.mem_external_exposeSymbol, or_comm]
  · simp [hid]

/-- A table in which all namespaces export what they did exports the same symbols. -/
theorem exports_congr {after : SymbolTable}
    (h : ∀ id, after.external? id = table.external? id) :
    after.Exports id symbol ↔ table.Exports id symbol := by
  rw [Exports, Exports, h]

/-- An exported symbol is the one that the request is answered with. -/
theorem exports_internExternal (asked : NamespaceId) (given : String) :
    (table.internExternal asked given).2.Exports id symbol ↔
      table.Exports id symbol ∨
        (id = asked ∧ table.answer? (.internExternal asked given) = some symbol) := by
  have hintern := table.external?_intern asked
  rw [answer?_internExternal, internExternal_eq]
  rcases hmade : table.intern asked given with ⟨_ | made, after⟩
  · have hafter : ∀ other, after.external? other = table.external? other := by
      intro other
      simpa [hmade] using hintern other given
    simp only [reduceCtorEq, and_false, or_false]
    exact exports_congr hafter
  · have hafter : ∀ other, after.external? other = table.external? other := by
      intro other
      simpa [hmade] using hintern other given
    -- a symbol is made in a namespace that exists, and it exists still
    have hasked : after.hasNamespace asked = true := by
      have hlength := @length_intern table asked given
      have hexists : table.hasNamespace asked = true := by
        by_contra hmissing
        rw [hasNamespace_iff, ← Option.isSome_iff_exists, Option.not_isSome_iff_eq_none]
          at hmissing
        rw [intern_of_missing given hmissing] at hmade
        cases hmade
      rw [hmade] at hlength
      exact hasNamespace_of_length_le (Nat.le_of_eq hlength.symm) hexists
    rw [exports_expose, exports_congr hafter]
    refine or_congr Iff.rfl ?_
    simp only [hasked, and_true, Option.some.injEq, eq_comm (a := symbol)]

/-- A request exports the symbol that it is answered with, if it is a request to export one. -/
theorem exports_perform (request : Request) :
    (table.perform request).Exports id symbol ↔
      table.Exports id symbol ∨
        ∃ name, request = .internExternal id name ∧ table.answer? request = some symbol := by
  cases request with
  | create text =>
    simp only [perform, reduceCtorEq, false_and, exists_false, or_false]
    rcases hfind : table.index.find? text with _ | owner
    · rw [create_of_free hfind]
      unfold Exports external?
      rw [namespace?_addNamespace]
      split
      next hid =>
        -- the new namespace exports nothing
        subst hid
        have hnew : table.namespace? ⟨(table.noteNames [text]).namespaces.length⟩ = none :=
          table.namespace?_next
        simp [NamespaceEntry.ofName, hnew]
      next => exact Iff.rfl
    · rw [create_of_taken hfind]
      exact Iff.rfl
  | intern asked given =>
    simp only [perform, reduceCtorEq, false_and, exists_false, or_false]
    exact exports_congr fun other => table.external?_intern asked other given
  | internExternal asked given =>
    rw [perform, exports_internExternal]
    refine or_congr Iff.rfl ?_
    simp only [Request.internExternal.injEq]
    constructor
    · rintro ⟨rfl, hanswer⟩
      exact ⟨given, ⟨rfl, rfl⟩, hanswer⟩
    · rintro ⟨_, ⟨rfl, rfl⟩, hanswer⟩
      exact ⟨rfl, hanswer⟩
  | rename asked text nicknames =>
    simp only [perform, reduceCtorEq, false_and, exists_false, or_false]
    exact exports_congr fun other => table.external?_rename asked other text nicknames

end Request

/-- No course of requests takes a symbol away. -/
theorem Reachable.owns_performAll {table : SymbolTable} {id : NamespaceId} {name : String}
    {symbol : SymbolId} (h : table.Reachable) (howns : table.Owns id name symbol)
    (requests : List Request) : (table.performAll requests).Owns id name symbol := by
  induction requests generalizing table with
  | nil => exact howns
  | cons request rest ih =>
    have hrequest := (owns_perform h.wellFormed request).2 (Or.inl howns)
    exact ih (h.perform request) hrequest

/-- The table that interning a name left was made by requests, and the symbol that was answered is
the one of the name. -/
theorem Reachable.of_intern {table after : SymbolTable} {id : NamespaceId} {name : String}
    {symbol : SymbolId} (h : table.Reachable)
    (hintern : table.intern id name = (some symbol, after)) :
    after.Reachable ∧ after.Owns id name symbol := by
  have hafter : table.perform (.intern id name) = after := congrArg Prod.snd hintern
  have hanswer : table.answer? (.intern id name) = some symbol := congrArg Prod.fst hintern
  rw [← hafter]
  exact ⟨h.perform _, (owns_perform h.wellFormed _).2 (Or.inr ⟨Or.inl rfl, hanswer⟩)⟩

/-! ## What a course of requests adds up to -/

/-- In the course of requests to the table without namespaces, a request is answered with a
symbol. -/
def Answered (requests : List Request) (request : Request) (symbol : SymbolId) : Prop :=
  ∃ before after, requests = before ++ request :: after ∧
    (empty.performAll before).answer? request = some symbol

variable {requests : List Request} {id : NamespaceId} {name : String} {symbol : SymbolId}

theorem performAll_concat (table : SymbolTable) (requests : List Request) (last : Request) :
    table.performAll (requests ++ [last]) = (table.performAll requests).perform last := by
  simp [performAll]

/-- A further request adds its own answer to the earlier ones. -/
theorem answered_concat (requests : List Request) (last request : Request) (symbol : SymbolId) :
    Answered (requests ++ [last]) request symbol ↔
      Answered requests request symbol ∨
        (request = last ∧ (empty.performAll requests).answer? last = some symbol) := by
  constructor
  · rintro ⟨before, after, hsplit, hanswer⟩
    rcases List.eq_nil_or_concat after with rfl | ⟨middle, other, rfl⟩
    · obtain ⟨rfl, hlast⟩ := List.append_inj' hsplit rfl
      obtain rfl := (List.cons.inj hlast).1
      exact Or.inr ⟨rfl, hanswer⟩
    · rw [List.concat_eq_append, ← List.cons_append, ← List.append_assoc] at hsplit
      obtain ⟨rfl, -⟩ := List.append_inj' hsplit rfl
      exact Or.inl ⟨before, middle, rfl, hanswer⟩
  · rintro (⟨before, after, rfl, hanswer⟩ | ⟨rfl, hanswer⟩)
    · exact ⟨before, after ++ [last], by simp, hanswer⟩
    · exact ⟨requests, [], rfl, hanswer⟩

/-- The symbols of a table are the answers to the requests for them. -/
theorem owns_performAll_iff :
    (empty.performAll requests).Owns id name symbol ↔
      ∃ request : Request, request.IsFor id name ∧ Answered requests request symbol := by
  -- by induction on the requests, the last one first
  induction requests using List.reverseRecOn with
  | nil => simp [performAll, owns_iff, empty, Answered]
  | append_singleton requests last ih =>
    have hformed := (Reachable.empty.performAll requests).wellFormed
    rw [performAll_concat, owns_perform hformed, ih]
    simp only [answered_concat]
    constructor
    · rintro (⟨request, hfor, hanswered⟩ | ⟨hfor, hanswer⟩)
      · exact ⟨request, hfor, Or.inl hanswered⟩
      · exact ⟨last, hfor, Or.inr ⟨rfl, hanswer⟩⟩
    · rintro ⟨request, hfor, hanswered | ⟨rfl, hanswer⟩⟩
      · exact Or.inl ⟨request, hfor, hanswered⟩
      · exact Or.inr ⟨hfor, hanswer⟩

/-- The exports of a namespace are the answers to the requests to export them. -/
theorem exports_performAll_iff :
    (empty.performAll requests).Exports id symbol ↔
      ∃ name, Answered requests (.internExternal id name) symbol := by
  induction requests using List.reverseRecOn with
  | nil => simp [performAll, Exports, external?, namespace?, empty, Answered]
  | append_singleton requests last ih =>
    rw [performAll_concat, exports_perform, ih]
    simp only [answered_concat]
    constructor
    · rintro (⟨name, hanswered⟩ | ⟨name, rfl, hanswer⟩)
      · exact ⟨name, Or.inl hanswered⟩
      · exact ⟨name, Or.inr ⟨rfl, hanswer⟩⟩
    · rintro ⟨name, hanswered | ⟨rfl, hanswer⟩⟩
      · exact Or.inl ⟨name, hanswered⟩
      · exact Or.inr ⟨name, rfl, hanswer⟩

/-- A symbol that is owned is external when its namespace exports it, and internal otherwise. -/
theorem visibility?_of_owns {table : SymbolTable} (h : table.WellFormed)
    (howns : table.Owns id name symbol) :
    (table.Exports id symbol → table.visibility? symbol = some .external) ∧
      (¬ table.Exports id symbol → table.visibility? symbol = some .internal) := by
  obtain ⟨entry, hentry⟩ := (table.hasNamespace_iff id).1 (h.hasNamespace_of_owns howns)
  have hexports : table.Exports id symbol ↔ symbol ∈ entry.external := by
    simp [Exports, external?, hentry]
  have hexternal : table.external? id = some entry.external := by
    rw [external?, hentry]
    rfl
  rw [hexports, visibility?_eq, howns.1, Option.bind_some, hexternal, Option.map_some]
  constructor
  · intro hmem
    rw [if_pos hmem]
  · intro hmem
    rw [if_neg hmem]

/-! ## Lookups -/

/-- A renaming leaves the visibility of every symbol. -/
theorem visibility?_rename (table : SymbolTable) (asked : NamespaceId) (text : String)
    (nicknames : List String) (symbol : SymbolId) :
    (table.rename asked text nicknames).2.visibility? symbol = table.visibility? symbol := by
  simp only [visibility?_eq, home?, symbols_rename, external?_rename]

/-- A renaming leaves what names stand for in a namespace. -/
theorem lookup?_rename {table : SymbolTable} (h : table.WellFormed)
    (hid : table.hasNamespace id = true) (asked : NamespaceId) (text : String)
    (nicknames : List String) :
    (table.rename asked text nicknames).2.lookup? id name = table.lookup? id name := by
  apply h.lookup?_congr (h.rename asked text nicknames) hid
  · exact hasNamespace_of_length_le (Nat.le_of_eq length_rename.symm) hid
  · intro symbol
    rw [owns_iff, owns_iff, symbols_rename]
  · intro symbol _
    exact visibility?_rename table asked text nicknames symbol

/-- A name that was ever exported stands for an external symbol, the one that the request was
answered with. -/
theorem lookup?_of_exported (h : Answered requests (.internExternal id name) symbol) :
    (empty.performAll requests).lookup? id name = some (.found symbol .external) := by
  have hformed := (Reachable.empty.performAll requests).wellFormed
  have hsymbol : (empty.performAll requests).Owns id name symbol :=
    owns_performAll_iff.2 ⟨_, Or.inr rfl, h⟩
  have hexports := exports_performAll_iff.2 ⟨name, h⟩
  exact (hformed.lookup?_eq_found_iff _ _ _ _).2
    ⟨hsymbol, (visibility?_of_owns hformed hsymbol).1 hexports⟩

/-- A name that was only interned stands for an internal symbol, again the answer. -/
theorem lookup?_of_interned (h : Answered requests (.intern id name) symbol)
    (hnever : ∀ other, ¬ Answered requests (.internExternal id name) other) :
    (empty.performAll requests).lookup? id name = some (.found symbol .internal) := by
  have hformed := (Reachable.empty.performAll requests).wellFormed
  have hsymbol : (empty.performAll requests).Owns id name symbol :=
    owns_performAll_iff.2 ⟨_, Or.inl rfl, h⟩
  have hexports : ¬ (empty.performAll requests).Exports id symbol := by
    intro hexports
    obtain ⟨other, hexported⟩ := exports_performAll_iff.1 hexports
    -- the exported symbol has one name only
    have hother : (empty.performAll requests).Owns id other symbol :=
      owns_performAll_iff.2 ⟨_, Or.inr rfl, hexported⟩
    obtain ⟨-, rfl⟩ := hsymbol.unique hother
    exact hnever symbol hexported
  exact (hformed.lookup?_eq_found_iff _ _ _ _).2
    ⟨hsymbol, (visibility?_of_owns hformed hsymbol).2 hexports⟩

/-- Any other name stands for nothing. -/
theorem lookup?_of_never (hid : (empty.performAll requests).hasNamespace id = true)
    (hnever : ∀ request : Request, request.IsFor id name →
      ∀ symbol, ¬ Answered requests request symbol) :
    (empty.performAll requests).lookup? id name = some .missing := by
  have hformed := (Reachable.empty.performAll requests).wellFormed
  apply (hformed.lookup?_eq_missing_iff hid name).2
  intro symbol hsymbol
  obtain ⟨request, hfor, hanswered⟩ := owns_performAll_iff.1 hsymbol
  exact hnever request hfor symbol hanswered

/-- Every request for a name, made of the namespace when it was there, has the same answer: the
symbol that the name stands for at last. -/
theorem exists_answer {before later : List Request} {request : Request}
    (hfor : request.IsFor id name) (hthere : (empty.performAll before).hasNamespace id = true) :
    ∃ symbol visibility, (empty.performAll before).answer? request = some symbol ∧
      (empty.performAll (before ++ request :: later)).lookup? id name =
        some (.found symbol visibility) := by
  obtain ⟨symbol, hsymbol, -⟩ := intern_spec hthere name
  rw [← answer?_of_isFor hfor] at hsymbol
  have howns : (empty.performAll (before ++ request :: later)).Owns id name symbol :=
    owns_performAll_iff.2 ⟨request, hfor, before, later, rfl, hsymbol⟩
  obtain ⟨visibility, -, hfound⟩ :=
    (Reachable.empty.performAll (before ++ request :: later)).wellFormed.exists_visibility howns
  exact ⟨symbol, visibility, hsymbol, hfound⟩

end SymbolTable

end AliasReader
