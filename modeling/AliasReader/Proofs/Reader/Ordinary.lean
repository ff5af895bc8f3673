import AliasReader.Reader.Sentinel
import Mathlib.Tactic.Common

/-!
# Ordinary Tables

The handlers of the standard table and those that deal with aliases are the ordinary ones. They
put nothing in front of the input, change no policy and enter no other namespace; what they fall
back on are ordinary tables again. A property of the handlers of two tables goes over to the
table that a delegation makes of them.

## Main definitions

* `Handler.Ordinary` and `ReadTable.Ordinary`: ordinary handlers, and tables of them;
* `ReadTable.NestsAtMost`: a bound on the number of fallback tables inside each other.

## Main results

* `ReadTable.nestsAtMost_depth`: the depth of a table is such a bound;
* `ReadTable.ordinary_standard` and `ReadTable.Ordinary.installSentinel`: the standard table is
  ordinary, and installing a sentinel over an ordinary table gives an ordinary one.
-/

namespace AliasReader

/-! ## Properties of all handlers of a table -/

namespace DispatchTable

variable {η : Type}

/-- After binding, the character has the new binding and every other one its own. -/
theorem binding?_bind (table : DispatchTable η) (c d : Char) (binding : Binding η) :
    (table.bind c binding).binding? d = if d = c then some binding else table.binding? d :=
  table.bindings.find?_insert c d binding

/-- After rebinding, the character starts what it starts in the other table. -/
theorem handler?_rebindFrom_self (table source : DispatchTable η) (c : Char) :
    (table.rebindFrom source c).handler? c = source.handler? c := by
  rw [handler?, handler?, binding?_rebindFrom, if_pos rfl]

/-- Every bound handler of a table has a property. -/
def AllHandlers (p : η → Prop) (table : DispatchTable η) : Prop :=
  ∀ c binding, table.binding? c = some binding → p binding.handler

theorem AllHandlers.rebindFrom {p : η → Prop} {table source : DispatchTable η}
    (htable : table.AllHandlers p) (hsource : source.AllHandlers p) (c : Char) :
    (table.rebindFrom source c).AllHandlers p := by
  intro d binding hbinding
  -- the rebound character has its handler from the source, the others keep theirs
  rw [binding?_rebindFrom] at hbinding
  split at hbinding
  · exact hsource c binding hbinding
  · exact htable d binding hbinding

theorem AllHandlers.bind {p : η → Prop} {table : DispatchTable η} (htable : table.AllHandlers p)
    {added : Binding η} (hadded : p added.handler) (c : Char) :
    (table.bind c added).AllHandlers p := by
  intro d binding hbinding
  rw [binding?_bind] at hbinding
  split at hbinding
  · rw [← Option.some.inj hbinding]
    exact hadded
  · exact htable d binding hbinding

theorem allHandlers_empty (p : η → Prop) : (empty : DispatchTable η).AllHandlers p := by
  intro c binding hbinding
  simp [binding?, empty] at hbinding

end DispatchTable

/-! ## Ordinary handlers -/

/-- The handlers that read the standard syntax or deal with aliases, and fall back on such
handlers only. -/
inductive Handler.Ordinary : Handler → Prop
  | list : Ordinary .list
  | close : Ordinary .close
  | text : Ordinary .text
  | quote : Ordinary .quote
  | comment : Ordinary .comment
  | aliasing (store : StoreId) : Ordinary (.aliasing store)
  | sentinel (store : StoreId) {fallback : ReadTable} :
      (∀ c binding, fallback.binding? c = some binding → Ordinary binding.handler) →
      Ordinary (.sentinel store fallback)
  | delegating {fallback : ReadTable} :
      (∀ c binding, fallback.binding? c = some binding → Ordinary binding.handler) →
      Ordinary (.delegating fallback)

namespace ReadTable

/-- All handlers of a table are ordinary. -/
def Ordinary (table : ReadTable) : Prop :=
  DispatchTable.AllHandlers Handler.Ordinary table

/-- The handlers of a table have at most `depth` fallback tables inside each other. -/
def NestsAtMost (depth : Nat) (table : ReadTable) : Prop :=
  DispatchTable.AllHandlers (·.depth ≤ depth) table

/-- The standard table is ordinary, under every case policy. -/
theorem ordinary_standard (policy : CasePolicy) :
    Ordinary (standard.withCase policy) := by
  -- the five bindings in the order in which they are made
  have hstandard : Ordinary standard :=
    (((((DispatchTable.allHandlers_empty _).bind .list '(').bind .close ')').bind .text '"').bind
      .quote '\'').bind .comment ';'
  exact hstandard

/-- What a sentinel falls back on is ordinary. -/
theorem Ordinary.getD {table : ReadTable} (htable : table.Ordinary) {fallback : Option ReadTable}
    (hfallback : ∀ other ∈ fallback, Ordinary other) : Ordinary (fallback.getD table) := by
  cases fallback with
  | none => exact htable
  | some other => exact hfallback other rfl

/-- Installing a sentinel over an ordinary table gives an ordinary one. -/
theorem Ordinary.installSentinel {table : ReadTable} (htable : table.Ordinary)
    {fallback : Option ReadTable} (hfallback : ∀ other ∈ fallback, Ordinary other)
    (trigger : Char) (store : StoreId) :
    Ordinary (table.installSentinel trigger fallback store) :=
  DispatchTable.AllHandlers.bind htable (.sentinel store (htable.getD hfallback)) trigger

/-- A handler in a list of entries nests no deeper than the list. -/
private theorem depth_le_depthOfEntries {entries : List (Char × Binding Handler)} {c : Char}
    {binding : Binding Handler} (h : Dictionary.lookup c entries = some binding) :
    binding.handler.depth ≤ depthOfEntries entries := by
  induction entries with
  | nil => simp [Dictionary.lookup] at h
  | cons entry rest ih =>
    obtain ⟨d, handler, terminating⟩ := entry
    rw [Dictionary.lookup] at h
    rw [depthOfEntries]
    split at h
    · obtain rfl := Option.some.inj h
      exact Nat.le_max_left _ _
    · exact Nat.le_trans (ih h) (Nat.le_max_right _ _)

/-- The depth of a table bounds the nesting of its handlers. -/
theorem nestsAtMost_depth (table : ReadTable) : NestsAtMost table.depth table := by
  intro c binding hbinding
  obtain ⟨policy, ⟨entries⟩⟩ := table
  exact depth_le_depthOfEntries hbinding

theorem NestsAtMost.mono {table : ReadTable} {depth depth' : Nat} (h : table.NestsAtMost depth)
    (hdepth : depth ≤ depth') : table.NestsAtMost depth' :=
  fun c binding hbinding => Nat.le_trans (h c binding hbinding) hdepth

/-- A bound on the nesting of a table bounds the nesting of what a character starts. -/
theorem NestsAtMost.depth_le {table : ReadTable} {depth : Nat} (h : table.NestsAtMost depth)
    {c : Char} {handler : Handler} (hhandler : table.handler? c = some handler) :
    handler.depth ≤ depth := by
  obtain ⟨binding, hbinding, rfl⟩ := Option.map_eq_some_iff.1 hhandler
  exact h c binding hbinding

end ReadTable

end AliasReader
