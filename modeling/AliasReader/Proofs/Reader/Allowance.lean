import AliasReader.Proofs.Reader.Progress

/-!
# The Allowance of Calls

With an ordinary table the allowance of calls is never used up. A call either reads on in the
source or falls back on a table inside the handler that it came from, so the remaining characters
and the nesting of the handler at the next one bound the calls that are still to come.

## Main results

* `Steps.returns_upTo`: how many calls each step needs;
* `Reader.readForm_ne_exhausted`, `Reader.readNext_ne_exhausted` and
  `Reader.readAll_ne_exhausted`: reading with an ordinary table is never given up.
-/

namespace AliasReader

namespace Steps

/-! ## Calls for a number of characters -/

/-- The calls inside each other that are allowed for a number of characters, with tables that
nest `depth` deep. Each character may be read by a form that falls back `depth` times. -/
def calls (depth size : Nat) : Nat := (depth + 2) * size

theorem calls_le {depth size size' : Nat} (h : size ≤ size') :
    calls depth size ≤ calls depth size' :=
  Nat.mul_le_mul_left _ h

/-- A further character is allowed the calls of one form. -/
theorem calls_lt {depth size size' : Nat} (h : size < size') :
    calls depth size + depth + 2 ≤ calls depth size' := by
  have hmul : (depth + 2) * (size + 1) ≤ (depth + 2) * size' := Nat.mul_le_mul_left _ h
  rw [Nat.mul_succ] at hmul
  exact hmul

/-- With `count` calls inside each other the steps come to an end, if that is enough for the
remaining characters. A form may use its share of the next character up to `limit`, which bounds
the nesting of the handler there. -/
structure Returns (depth count : Nat) (steps : Steps) : Prop where
  /-- A form comes to an end. -/
  form : ∀ reader limit, reader.table.Ordinary → reader.table.NestsAtMost depth →
    (∀ c handler, reader.skipWhitespace.peek? = some c → reader.table.handler? c = some handler →
      handler.depth ≤ limit) → 0 < count → calls depth reader.size + limit ≤ count + depth →
    steps.form reader ≠ .exhausted
  /-- A datum comes to an end. -/
  next : ∀ reader, reader.table.Ordinary → reader.table.NestsAtMost depth →
    calls depth reader.size + 1 ≤ count → steps.next reader ≠ .exhausted
  /-- All data come to an end. -/
  all : ∀ reader, reader.table.Ordinary → reader.table.NestsAtMost depth →
    calls depth reader.size + 2 ≤ count → steps.all reader ≠ .exhausted
  /-- A list comes to an end. -/
  items : ∀ start reader, reader.table.Ordinary → reader.table.NestsAtMost depth →
    calls depth reader.size + 1 ≤ count → steps.items start reader ≠ .exhausted

end Steps

namespace Outcome

variable {α β : Type}

theorem andThen_ne_exhausted {outcome : Outcome α} {next : α → Reader → Outcome β}
    (h : outcome ≠ .exhausted)
    (hnext : ∀ result mid, outcome = .value result mid → next result mid ≠ .exhausted) :
    outcome.andThen next ≠ .exhausted := by
  cases outcome with
  | value result mid => exact hnext result mid rfl
  | failed failure after => simp
  | dangling after => simp
  | exhausted => exact absurd rfl h

theorem map_ne_exhausted {outcome : Outcome α} (h : outcome ≠ .exhausted) (f : α → β) :
    outcome.map f ≠ .exhausted :=
  andThen_ne_exhausted h fun _ _ _ => by simp

end Outcome

namespace Reader

theorem takeText_ne_exhausted (reader : Reader) (quote : Char) (start : Nat) :
    reader.takeText quote start ≠ .exhausted := by
  unfold takeText
  split <;> simp

theorem takeSymbol_ne_exhausted (reader : Reader) : reader.takeSymbol ≠ .exhausted := by
  unfold takeSymbol
  simp only
  split <;> simp

theorem takeReference_ne_exhausted (reader : Reader) (registry : AliasRegistry) (trigger : Char)
    (start : Nat) : reader.takeReference registry trigger start ≠ .exhausted := by
  unfold takeReference
  simp only
  split
  · split <;> simp
  · split <;> simp

theorem withTable_ne_exhausted {α : Type} {reader : Reader} {table : ReadTable}
    {step : Reader → Outcome α} (h : step { reader with table } ≠ .exhausted) :
    reader.withTable table step ≠ .exhausted := by
  unfold withTable
  cases hstep : step { reader with table } with
  | value result after => simp [Outcome.onReturn]
  | failed failure after => simp [Outcome.onReturn]
  | dangling after => simp [Outcome.onReturn]
  | exhausted => exact absurd hstep h

end Reader

namespace Steps

variable {stores : Stores} {steps : Steps} {depth count : Nat} (h : steps.Returns depth count)
  (hadvances : steps.Advances)

include h

/-- A delegation comes to an end, as the handler that it falls back on nests less deep. -/
theorem delegate_ne_exhausted {fallback : ReadTable} (hfallback : fallback.Ordinary)
    {limit : Nat} (hlimit : depthOfTable fallback + 1 ≤ limit) {reader : Reader}
    (htable : reader.table.Ordinary) (hnests : reader.table.NestsAtMost depth)
    (hdepth : depthOfTable fallback ≤ depth) {c : Char} (hpeek : reader.peek? = some c)
    (hwhite : Unicode.isWhitespace c = false)
    (hcount : calls depth reader.size + limit ≤ count + 1 + depth) :
    steps.delegate fallback c reader.advance ≠ .exhausted := by
  have hsize := Reader.size_advance hpeek
  have hone := @calls_lt depth 0 reader.size (by omega)
  have hfallbackNests := ReadTable.nestsAtMost_depth fallback
  have hstay := Reader.skipWhitespace_of_peek? hpeek hwhite
  rw [delegate, Reader.unread_advance hpeek]
  refine Reader.withTable_ne_exhausted ?_
  -- one fallback less is left for the handler that is delegated to
  refine h.form { reader with table := reader.table.rebindFrom fallback c } (limit - 1)
    (htable.rebindFrom hfallback c) (hnests.rebindFrom (hfallbackNests.mono hdepth) c) ?_
    (by omega) ?_
  · intro d handler hd hhandler
    -- the form starts at the trigger again, which is bound as in the fallback table
    have hskip : reader.skipWhitespace.peek? = some d := hd
    rw [hstay, hpeek] at hskip
    obtain rfl := Option.some.inj hskip
    rw [DispatchTable.handler?_rebindFrom_self] at hhandler
    have hnested : handler.depth ≤ depthOfTable fallback := hfallbackNests.depth_le hhandler
    omega
  · change calls depth reader.size + (limit - 1) ≤ count + depth
    omega

/-- An ordinary handler comes to an end. -/
theorem handle_ne_exhausted {handler : Handler} (hhandler : handler.Ordinary) {limit : Nat}
    (hlimit : handler.depth ≤ limit) (hdepth : handler.depth ≤ depth) {reader : Reader}
    (htable : reader.table.Ordinary) (hnests : reader.table.NestsAtMost depth) {c : Char}
    (hpeek : reader.peek? = some c) (hwhite : Unicode.isWhitespace c = false)
    (hcount : calls depth reader.size + limit ≤ count + 1 + depth) (start : Nat) :
    handle stores steps handler c start reader.advance ≠ .exhausted := by
  have hsize := Reader.size_advance hpeek
  -- behind the trigger there are calls for one character fewer
  have hcalls := @calls_lt depth reader.advance.size reader.size (by omega)
  have hadvanced : reader.advance.table.Ordinary := htable
  cases hhandler with
  | list =>
    exact Outcome.map_ne_exhausted (h.items start reader.advance hadvanced hnests (by omega)) _
  | close => simp [handle]
  | text =>
    rw [handle]
    exact reader.advance.takeText_ne_exhausted c start
  | quote =>
    refine Outcome.andThen_ne_exhausted (h.next reader.advance hadvanced hnests (by omega)) ?_
    intro result mid _
    cases result <;> simp
  | comment => simp [handle]
  | aliasing store => exact reader.advance.takeReference_ne_exhausted _ c start
  | sentinel store hfallback =>
    rw [handle]
    rw [Handler.depth] at hlimit hdepth
    split
    · exact reader.advance.takeReference_ne_exhausted _ c start
    · exact delegate_ne_exhausted h hfallback hlimit htable hnests (by omega) hpeek hwhite hcount
  | delegating hfallback =>
    rw [Handler.depth] at hlimit hdepth
    exact delegate_ne_exhausted h hfallback hlimit htable hnests (by omega) hpeek hwhite hcount

/-- A form comes to an end with one more call. -/
theorem readForm_ne_exhausted {limit : Nat} {reader : Reader} (htable : reader.table.Ordinary)
    (hnests : reader.table.NestsAtMost depth)
    (hlimit : ∀ c handler, reader.skipWhitespace.peek? = some c →
      reader.table.handler? c = some handler → handler.depth ≤ limit)
    (hcount : calls depth reader.size + limit ≤ count + 1 + depth) :
    readForm stores steps reader ≠ .exhausted := by
  have hsize := @calls_le depth _ _ reader.continues_skipWhitespace.size_le
  cases hpeek : reader.skipWhitespace.peek? with
  | none => simp [readForm_of_end hpeek]
  | some c =>
    have hwhite := Reader.isWhitespace_of_peek? hpeek
    cases hbinding : reader.table.binding? c with
    | none =>
      rw [readForm_of_unbound hpeek hbinding]
      exact Outcome.map_ne_exhausted reader.skipWhitespace.takeSymbol_ne_exhausted _
    | some binding =>
      have hhandler : reader.table.handler? c = some binding.handler :=
        Option.map_eq_some_iff.2 ⟨binding, hbinding, rfl⟩
      rw [readForm_of_bound hpeek hbinding]
      exact @handle_ne_exhausted stores steps depth count h _ (htable c binding hbinding) limit
        (hlimit c _ hpeek hhandler) (hnests c binding hbinding) reader.skipWhitespace htable hnests
        c hpeek hwhite (by omega) _

/-- A form in front of a character comes to an end with the calls of the remaining characters. -/
theorem form_ne_exhausted {reader : Reader} (htable : reader.table.Ordinary)
    (hnests : reader.table.NestsAtMost depth) (hpos : 0 < reader.size)
    (hcount : calls depth reader.size ≤ count) : steps.form reader ≠ .exhausted := by
  -- the calls for one character cover a handler of any depth
  have hone := @calls_lt depth 0 reader.size hpos
  exact h.form reader depth htable hnests (fun _ _ _ hhandler => hnests.depth_le hhandler)
    (by omega) (by omega)

include hadvances

/-- The next datum comes to an end with one more call. -/
theorem readNext_ne_exhausted {reader : Reader} (htable : reader.table.Ordinary)
    (hnests : reader.table.NestsAtMost depth)
    (hcount : calls depth reader.size + 1 ≤ count + 1) :
    readNext steps reader ≠ .exhausted := by
  have hskip := reader.continues_skipWhitespace
  have hsize := @calls_le depth _ _ hskip.size_le
  unfold readNext
  simp only
  split
  · simp
  next hend =>
    have hform := hadvances.form reader.skipWhitespace htable
    rw [reader.skipWhitespace_skipWhitespace, if_neg hend] at hform
    refine Outcome.andThen_ne_exhausted ?_ ?_
    · exact @form_ne_exhausted steps depth count h reader.skipWhitespace htable hnests
        (Reader.size_pos hend) (by omega)
    · intro result mid hmid
      rw [hmid] at hform
      obtain ⟨hcontinues, hused⟩ := hform
      cases result with
      | some datum => simp
      | none =>
        -- a form without a value has taken a character, which pays for the next call
        have hfewer := @calls_lt depth mid.size reader.skipWhitespace.size hused
        have hmidTable : mid.table = reader.table := hcontinues.table
        exact h.next mid (hmidTable ▸ htable) (hmidTable ▸ hnests) (by omega)

/-- All data come to an end with one more call. -/
theorem readAll_ne_exhausted {reader : Reader} (htable : reader.table.Ordinary)
    (hnests : reader.table.NestsAtMost depth)
    (hcount : calls depth reader.size + 2 ≤ count + 1) :
    readAll steps reader ≠ .exhausted := by
  have hnext := hadvances.next reader htable
  refine Outcome.andThen_ne_exhausted (h.next reader htable hnests (by omega)) ?_
  intro result mid hmid
  rw [hmid] at hnext
  obtain ⟨hcontinues, hused⟩ := hnext
  cases result with
  | none => simp
  | some datum =>
    have hfewer := @calls_lt depth mid.size reader.size hused
    exact Outcome.map_ne_exhausted (h.all mid (hcontinues.table ▸ htable)
      (hcontinues.table ▸ hnests) (by omega)) _

/-- The items of a list come to an end with one more call. -/
theorem readItems_ne_exhausted {reader : Reader} (htable : reader.table.Ordinary)
    (hnests : reader.table.NestsAtMost depth)
    (hcount : calls depth reader.size + 1 ≤ count + 1) (start : Nat) :
    readItems steps start reader ≠ .exhausted := by
  have hskip := reader.continues_skipWhitespace
  have hsize := @calls_le depth _ _ hskip.size_le
  unfold readItems
  simp only
  cases hpeek : reader.skipWhitespace.peek? with
  | none => simp
  | some c =>
    have hend := Reader.isAtEnd_eq_false hpeek
    have hpos := Reader.size_advance hpeek
    have hform := hadvances.form reader.skipWhitespace htable
    rw [reader.skipWhitespace_skipWhitespace, hend, if_neg Bool.false_ne_true] at hform
    simp only
    split
    · simp
    · refine Outcome.andThen_ne_exhausted ?_ ?_
      · exact @form_ne_exhausted steps depth count h reader.skipWhitespace htable hnests
          (by omega) (by omega)
      · intro result mid hmid
        rw [hmid] at hform
        obtain ⟨hcontinues, hused⟩ := hform
        -- the rest of the list has the characters behind the item
        have hfewer := @calls_lt depth mid.size reader.skipWhitespace.size hused
        have hmidTable : mid.table = reader.table := hcontinues.table
        exact Outcome.map_ne_exhausted (h.items start mid (hmidTable ▸ htable)
          (hmidTable ▸ hnests) (by omega)) _

omit h hadvances in
/-- Any number of calls is enough for the characters that it is enough for. -/
theorem returns_upTo (stores : Stores) (depth count : Nat) :
    (upTo stores count).Returns depth count := by
  induction count with
  | zero =>
    -- no step has anything to promise without a call
    refine ⟨?_, ?_, ?_, ?_⟩
    · intro reader limit _ _ _ hpos
      exact absurd hpos (Nat.lt_irrefl 0)
    · intro reader _ _ hcount
      exact absurd hcount (by omega)
    · intro reader _ _ hcount
      exact absurd hcount (by omega)
    · intro start reader _ _ hcount
      exact absurd hcount (by omega)
  | succ count ih =>
    have hadvances := advances_upTo stores count
    exact ⟨fun reader limit htable hnests hlimit _ hcount =>
        readForm_ne_exhausted ih htable hnests hlimit hcount,
      fun reader htable hnests hcount => readNext_ne_exhausted ih hadvances htable hnests hcount,
      fun reader htable hnests hcount => readAll_ne_exhausted ih hadvances htable hnests hcount,
      fun start reader htable hnests hcount =>
        readItems_ne_exhausted ih hadvances htable hnests hcount start⟩

end Steps

/-! ## Reading with an ordinary table -/

namespace Reader

/-- The allowance is enough for all data. -/
theorem calls_le_allowance (reader : Reader) :
    Steps.calls reader.table.depth reader.size + reader.table.depth + 2 ≤ reader.allowance := by
  have hmul : (reader.table.depth + 2) * reader.size ≤ (reader.table.depth + 3) * reader.size :=
    Nat.mul_le_mul_right _ (Nat.le_succ _)
  have hcomm := Nat.mul_comm (reader.table.depth + 3) (reader.size + 1)
  rw [Nat.mul_succ] at hcomm
  simp only [allowance, expansionAllowance, Steps.calls, size] at *
  omega

variable {stores : Stores} {reader : Reader} (htable : reader.table.Ordinary)

include htable

/-- Reading a form with an ordinary table is never given up. -/
theorem readForm_ne_exhausted : reader.readForm stores ≠ .exhausted := by
  have hallowance := reader.calls_le_allowance
  -- the nesting at the next character is bounded as everywhere in the table
  have hnests := ReadTable.nestsAtMost_depth reader.table
  exact (Steps.returns_upTo stores reader.table.depth reader.allowance).form reader
    reader.table.depth htable hnests (fun _ _ _ hhandler => hnests.depth_le hhandler) (by omega)
    (by omega)

/-- Reading the next datum with an ordinary table is never given up. -/
theorem readNext_ne_exhausted : reader.readNext stores ≠ .exhausted := by
  have hallowance := reader.calls_le_allowance
  exact (Steps.returns_upTo stores reader.table.depth reader.allowance).next reader htable
    (ReadTable.nestsAtMost_depth reader.table) (by omega)

/-- Reading all data with an ordinary table is never given up. -/
theorem readAll_ne_exhausted : reader.readAll stores ≠ .exhausted := by
  have hallowance := reader.calls_le_allowance
  exact (Steps.returns_upTo stores reader.table.depth reader.allowance).all reader htable
    (ReadTable.nestsAtMost_depth reader.table) (by omega)

end Reader

end AliasReader
