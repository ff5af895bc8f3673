import AliasReader.Proofs.Namespace.Interning
import AliasReader.Proofs.Reader.Progress

/-!
# Symbols Made by Reading

With an ordinary table reading does one thing to the symbol table, whatever it comes to in the
end: it interns the folded plain tokens, none of which is empty, in the current namespace, in
order. The current namespace itself stays.

## Main definitions

* `Reader.Interned`: a reader has interned names since another one.

## Main results

* `Steps.interns_upTo`: each step interns names only;
* `Reader.readForm_interned`, `Reader.readNext_interned` and `Reader.readAll_interned`: what
  reading leaves of the symbol table.
-/

namespace AliasReader

/-- Between two readers names were interned in the current namespace, and nothing else was done to
the symbol table. -/
structure Reader.Interned (before after : Reader) : Prop where
  /-- The namespace stays. -/
  current : after.current = before.current
  /-- Names were interned in it, none of which is empty. -/
  host : ∃ names, (∀ name ∈ names, name ≠ "") ∧
    after.host = before.host.internAll before.current names

namespace Reader

variable {before mid after : Reader}

/-- A reader with the same symbol table has interned nothing. -/
theorem interned_of_host_eq (hcurrent : after.current = before.current)
    (hhost : after.host = before.host) : before.Interned after :=
  ⟨hcurrent, [], fun _ hname => absurd hname List.not_mem_nil, hhost⟩

theorem Interned.trans (h : before.Interned mid) (h' : mid.Interned after) :
    before.Interned after := by
  obtain ⟨names, hnames, hmid⟩ := h.host
  obtain ⟨names', hnames', hafter⟩ := h'.host
  refine ⟨h'.current.trans h.current, names ++ names', ?_, ?_⟩
  · intro name hname
    rcases List.mem_append.1 hname with hname | hname
    · exact hnames name hname
    · exact hnames' name hname
  · rw [hafter, hmid, h.current, SymbolTable.internAll_append]

end Reader

namespace Outcome

variable {α β : Type} {before mid : Reader}

/-- Whatever a step came to, names were interned only. -/
def Interned (before : Reader) : Outcome α → Prop
  | value _ after => before.Interned after
  | failed _ after => before.Interned after
  | dangling after => before.Interned after
  | exhausted => True

theorem Interned.of_interned {outcome : Outcome α} (h : outcome.Interned mid)
    (hmid : before.Interned mid) : outcome.Interned before := by
  cases outcome with
  | value result after => exact hmid.trans h
  | failed failure after => exact hmid.trans h
  | dangling after => exact hmid.trans h
  | exhausted => trivial

theorem Interned.andThen {outcome : Outcome α} {next : α → Reader → Outcome β}
    (h : outcome.Interned before)
    (hnext : ∀ result mid, outcome = .value result mid → (next result mid).Interned mid) :
    (outcome.andThen next).Interned before := by
  cases outcome with
  | value result mid => exact (hnext result mid rfl).of_interned h
  | failed failure after => exact h
  | dangling after => exact h
  | exhausted => trivial

theorem Interned.map {outcome : Outcome α} (h : outcome.Interned before) (f : α → β) :
    (outcome.map f).Interned before :=
  h.andThen fun _ _ _ => Reader.interned_of_host_eq rfl rfl

end Outcome

namespace Reader

/-- A step under another table interns names only if it does so from the reader with that
table. -/
theorem interned_withTable {α : Type} {reader : Reader} {table : ReadTable}
    {step : Reader → Outcome α}
    (h : (step { reader with table }).Interned { reader with table }) :
    (reader.withTable table step).Interned reader := by
  unfold withTable
  cases hstep : step { reader with table } with
  | value result after =>
    rw [hstep] at h
    exact ⟨h.current, h.host⟩
  | failed failure after =>
    rw [hstep] at h
    exact ⟨h.current, h.host⟩
  | dangling after =>
    rw [hstep] at h
    exact ⟨h.current, h.host⟩
  | exhausted => trivial

/-- A plain token is interned. It is not empty, if it starts with an unbound character. -/
theorem takeSymbol_interned {reader : Reader} {c : Char} (hpeek : reader.peek? = some c)
    (hwhite : Unicode.isWhitespace c = false) (hbinding : reader.table.binding? c = none) :
    reader.takeSymbol.Interned reader := by
  have htoken : String.ofList (reader.cursor.takeWhile (continuesToken reader.table)).1 ≠ "" := by
    intro hempty
    exact token_ne_nil hpeek hwhite hbinding (String.ofList_eq_empty_iff.1 hempty)
  have hname := reader.table.case.fold_ne_empty htoken
  unfold takeSymbol
  dsimp only at hname ⊢
  generalize reader.table.case.fold _ = name at hname ⊢
  have hone : reader.host.internAll reader.current [name] =
      (reader.host.intern reader.current name).2 := rfl
  have hnames : ∀ other ∈ [name], other ≠ "" := by
    intro other hother
    rw [List.mem_singleton.1 hother]
    exact hname
  split
  next heq => exact ⟨rfl, [name], hnames, by rw [hone, heq]⟩
  next heq => exact ⟨rfl, [name], hnames, by rw [hone, heq]⟩

theorem takeText_interned (reader : Reader) (quote : Char) (start : Nat) :
    (reader.takeText quote start).Interned reader := by
  unfold takeText
  split <;> exact interned_of_host_eq rfl rfl

theorem takeReference_interned (reader : Reader) (registry : AliasRegistry) (trigger : Char)
    (start : Nat) : (reader.takeReference registry trigger start).Interned reader := by
  unfold takeReference
  simp only
  split
  · split <;> exact interned_of_host_eq rfl rfl
  · split <;> exact interned_of_host_eq rfl rfl

end Reader

namespace Steps

variable {stores : Stores} {steps : Steps}

/-- The steps intern names only, from every reader with an ordinary table. -/
structure Interns (steps : Steps) : Prop where
  /-- A form interns names only. -/
  form : ∀ reader, reader.table.Ordinary → (steps.form reader).Interned reader
  /-- A datum interns names only. -/
  next : ∀ reader, reader.table.Ordinary → (steps.next reader).Interned reader
  /-- All data intern names only. -/
  all : ∀ reader, reader.table.Ordinary → (steps.all reader).Interned reader
  /-- The items of a list intern names only. -/
  items : ∀ start reader, reader.table.Ordinary → (steps.items start reader).Interned reader

variable (h : steps.Interns) {reader : Reader} (htable : reader.table.Ordinary)

include h htable

theorem delegate_interned {fallback : ReadTable} (hfallback : fallback.Ordinary) {c : Char}
    (hpeek : reader.peek? = some c) :
    (steps.delegate fallback c reader.advance).Interned reader := by
  -- the trigger is put back, and the form there is read with the combined table
  rw [delegate, Reader.unread_advance hpeek]
  exact Reader.interned_withTable
    (h.form { reader with table := reader.table.rebindFrom fallback c }
      (htable.rebindFrom hfallback c))

theorem handle_interned {handler : Handler} (hhandler : handler.Ordinary) {c : Char}
    (hpeek : reader.peek? = some c) (start : Nat) :
    (handle stores steps handler c start reader.advance).Interned reader := by
  have hadvanced : reader.advance.table.Ordinary := htable
  have hadvance : reader.Interned reader.advance := Reader.interned_of_host_eq rfl rfl
  cases hhandler with
  | list => exact ((h.items start _ hadvanced).map _).of_interned hadvance
  | close => exact hadvance
  | text => exact (reader.advance.takeText_interned c start).of_interned hadvance
  | quote =>
    refine Outcome.Interned.of_interned (Outcome.Interned.andThen (h.next _ hadvanced) ?_) hadvance
    intro result mid _
    cases result <;> exact Reader.interned_of_host_eq rfl rfl
  | comment => exact Reader.interned_of_host_eq rfl rfl
  | aliasing store =>
    exact (reader.advance.takeReference_interned _ c start).of_interned hadvance
  | sentinel store hfallback =>
    rw [handle]
    split
    · exact (reader.advance.takeReference_interned _ c start).of_interned hadvance
    · exact delegate_interned h htable hfallback hpeek
  | delegating hfallback => exact delegate_interned h htable hfallback hpeek

theorem readForm_interned : (readForm stores steps reader).Interned reader := by
  have hskip : reader.Interned reader.skipWhitespace := Reader.interned_of_host_eq rfl rfl
  cases hpeek : reader.skipWhitespace.peek? with
  | none =>
    rw [readForm_of_end hpeek]
    exact hskip
  | some c =>
    cases hbinding : reader.table.binding? c with
    | none =>
      rw [readForm_of_unbound hpeek hbinding]
      have hwhite := Reader.isWhitespace_of_peek? hpeek
      exact ((Reader.takeSymbol_interned hpeek hwhite hbinding).map some).of_interned hskip
    | some binding =>
      rw [readForm_of_bound hpeek hbinding]
      exact (@handle_interned stores steps h reader.skipWhitespace htable _
        (htable c binding hbinding) c hpeek _).of_interned hskip

variable (hadvances : steps.Advances)

include hadvances

theorem readNext_interned : (readNext steps reader).Interned reader := by
  have hskip : reader.Interned reader.skipWhitespace := Reader.interned_of_host_eq rfl rfl
  have hform := hadvances.form reader.skipWhitespace htable
  unfold readNext
  simp only
  split
  · exact hskip
  · refine ((h.form reader.skipWhitespace htable).andThen ?_).of_interned hskip
    intro result mid hmid
    rw [hmid] at hform
    cases result with
    | some datum => exact Reader.interned_of_host_eq rfl rfl
    | none => exact h.next mid (hform.1.table ▸ htable)

theorem readAll_interned : (readAll steps reader).Interned reader := by
  have hnext := hadvances.next reader htable
  unfold readAll
  refine (h.next reader htable).andThen ?_
  intro result mid hmid
  rw [hmid] at hnext
  cases result with
  | none => exact Reader.interned_of_host_eq rfl rfl
  | some datum => exact (h.all mid (hnext.1.table ▸ htable)).map _

theorem readItems_interned (start : Nat) : (readItems steps start reader).Interned reader := by
  have hskip : reader.Interned reader.skipWhitespace := Reader.interned_of_host_eq rfl rfl
  have hform := hadvances.form reader.skipWhitespace htable
  unfold readItems
  simp only
  split
  · exact hskip
  · split
    · exact Reader.interned_of_host_eq rfl rfl
    · refine ((h.form reader.skipWhitespace htable).andThen ?_).of_interned hskip
      intro result mid hmid
      rw [hmid] at hform
      exact (h.items start mid (hform.1.table ▸ htable)).map _

omit h htable hadvances in
/-- However many calls are allowed inside each other, the steps intern names only. -/
theorem interns_upTo (stores : Stores) (count : Nat) : (upTo stores count).Interns := by
  -- by induction on the calls, of which each step uses up one for the steps that it calls
  induction count with
  | zero => exact ⟨fun _ _ => trivial, fun _ _ => trivial, fun _ _ => trivial, fun _ _ _ => trivial⟩
  | succ count ih =>
    have hadvances := advances_upTo stores count
    exact ⟨fun _ htable => readForm_interned ih htable,
      fun _ htable => readNext_interned ih htable hadvances,
      fun _ htable => readAll_interned ih htable hadvances,
      fun start _ htable => readItems_interned ih htable hadvances start⟩

end Steps

namespace Reader

variable (stores : Stores) {reader : Reader} (htable : reader.table.Ordinary)

include htable

/-- Reading a form with an ordinary table interns names in the current namespace and changes
nothing else of the symbol table, also when it fails. -/
theorem readForm_interned : (reader.readForm stores).Interned reader :=
  (Steps.interns_upTo stores reader.allowance).form reader htable

theorem readNext_interned : (reader.readNext stores).Interned reader :=
  (Steps.interns_upTo stores reader.allowance).next reader htable

theorem readAll_interned : (reader.readAll stores).Interned reader :=
  (Steps.interns_upTo stores reader.allowance).all reader htable

end Reader

end AliasReader
