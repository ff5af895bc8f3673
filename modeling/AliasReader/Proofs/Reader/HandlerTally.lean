import AliasReader.Proofs.Reader.Allowance

/-!
# Handlers Started in Reading

A delegation puts its trigger back and reads the form again, so the handlers that reading starts
are not bounded by the characters that it takes. They are when each character pays for one handler
more than tables nest: one for the handler at the end of a chain of delegations, and one for every
fallback table on the way there. What a delegation has left of the share of its trigger is the
nesting of the handler that it falls back on.

## Main definitions

* `Tally` and `Tally.upTo`: how many handlers each step of reading starts;
* `Outcome.left`: the number of characters that a step leaves;
* `Steps.Pays`: the characters that the steps take pay for the handlers that they start.

## Main results

* `Steps.pays_upTo`: the steps pay for their handlers, and a form takes a character if there is one
  to start it, also when it fails.
-/

namespace AliasReader

/-! ## Counting handlers -/

/-- What goes on from the value of a step counts; nothing goes on from any other outcome. -/
def Outcome.countThen {α : Type} (outcome : Outcome α) (next : α → Reader → Nat) : Nat :=
  match outcome with
  | .value result after => next result after
  | _ => 0

/-- How many handlers the steps of reading start. -/
structure Tally where
  /-- The handlers that are started for one form. -/
  form : Reader → Nat
  /-- The handlers that are started for the next datum. -/
  next : Reader → Nat
  /-- The handlers that are started for all data. -/
  all : Reader → Nat
  /-- The handlers that are started for the items of a list. -/
  items : Reader → Nat

namespace Tally

/-- Steps that are given up at once start no handler. -/
def zero : Tally := ⟨fun _ => 0, fun _ => 0, fun _ => 0, fun _ => 0⟩

/-- The handlers that a delegation starts. -/
def delegate (tally : Tally) (fallback : ReadTable) (trigger : Char) (reader : Reader) : Nat :=
  tally.form { reader.unread trigger with table := reader.table.rebindFrom fallback trigger }

/-- The handlers that a handler starts, itself apart. -/
def handle (stores : Stores) (tally : Tally) (handler : Handler) (trigger : Char)
    (reader : Reader) : Nat :=
  match handler with
  | .list => tally.items reader
  | .quote => tally.next reader
  | .sentinel store fallback =>
      if (stores store).hasAliases reader.current then 0
      else tally.delegate fallback trigger reader
  | .delegating fallback => tally.delegate fallback trigger reader
  | .wrap => tally.form reader
  | .gather => tally.all reader
  | .expand content => tally.form (content.toList.reverse.foldl Reader.unread reader)
  | .underCase policy => tally.form { reader with table := reader.table.withCase policy }
  | .inNamespace id => tally.form { reader with current := id }
  | .close | .text | .comment | .aliasing _ | .nothing | .constant _ | .position => 0

/-- The handlers that are started for one form, with the one that it starts with. -/
def readForm (stores : Stores) (tally : Tally) (reader : Reader) : Nat :=
  let reader := reader.skipWhitespace
  match reader.peek? with
  | none => 0
  | some c =>
      match reader.table.handler? c with
      | some handler => tally.handle stores handler c reader.advance + 1
      | none => 0

/-- The handlers that are started for the next datum, with those for the forms without a value that
are passed over. -/
def readNext (steps : Steps) (tally : Tally) (reader : Reader) : Nat :=
  let reader := reader.skipWhitespace
  if reader.cursor.isAtEnd then 0
  else tally.form reader + (steps.form reader).countThen fun
    | some _, _ => 0
    | none, reader => tally.next reader

/-- The handlers that are started for all data. -/
def readAll (steps : Steps) (tally : Tally) (reader : Reader) : Nat :=
  tally.next reader + (steps.next reader).countThen fun
    | none, _ => 0
    | some _, reader => tally.all reader

/-- The handlers that are started for the items of a list. -/
def readItems (steps : Steps) (tally : Tally) (reader : Reader) : Nat :=
  let reader := reader.skipWhitespace
  match reader.peek? with
  | none => 0
  | some c =>
      if c = ')' then 0
      else tally.form reader + (steps.form reader).countThen fun _ reader => tally.items reader

/-- The handlers that are started with at most `count` calls inside each other. -/
def upTo (stores : Stores) : Nat → Tally
  | 0 => zero
  | count + 1 =>
      ⟨fun reader => readForm stores (upTo stores count) reader,
        fun reader => readNext (Steps.upTo stores count) (upTo stores count) reader,
        fun reader => readAll (Steps.upTo stores count) (upTo stores count) reader,
        fun reader => readItems (Steps.upTo stores count) (upTo stores count) reader⟩

variable {stores : Stores} {tally : Tally} {reader : Reader}

theorem readForm_of_end (hpeek : reader.skipWhitespace.peek? = none) :
    tally.readForm stores reader = 0 := by
  unfold readForm
  simp only [hpeek]

/-- A plain token starts no handler. -/
theorem readForm_of_unbound {c : Char} (hpeek : reader.skipWhitespace.peek? = some c)
    (hbinding : reader.table.binding? c = none) : tally.readForm stores reader = 0 := by
  have hhandler : reader.skipWhitespace.table.handler? c = none :=
    Option.map_eq_none_iff.2 hbinding
  unfold readForm
  simp only [hpeek, hhandler]

theorem readForm_of_bound {c : Char} {binding : Binding Handler}
    (hpeek : reader.skipWhitespace.peek? = some c)
    (hbinding : reader.table.binding? c = some binding) :
    tally.readForm stores reader =
      tally.handle stores binding.handler c reader.skipWhitespace.advance + 1 := by
  have hhandler : reader.skipWhitespace.table.handler? c = some binding.handler :=
    Option.map_eq_some_iff.2 ⟨binding, hbinding, rfl⟩
  unfold readForm
  simp only [hpeek, hhandler]

end Tally

/-! ## The characters that a step leaves -/

namespace Outcome

variable {α β : Type}

/-- The reader that a step leaves when it comes to a value or a failure. -/
def after? : Outcome α → Option Reader
  | value _ after => some after
  | failed _ after => some after
  | dangling _ => none
  | exhausted => none

/-- The number of characters that a step leaves, if it comes to a value or a failure. -/
def left (outcome : Outcome α) : Nat :=
  (outcome.after?.map Reader.size).getD 0

@[simp]
theorem left_value (result : α) (after : Reader) : (value result after).left = after.size := rfl

@[simp]
theorem left_failed (failure : ReadFailure) (after : Reader) :
    (failed failure after : Outcome α).left = after.size := rfl

@[simp]
theorem left_dangling (after : Reader) : (dangling after : Outcome α).left = 0 := rfl

@[simp]
theorem left_exhausted : (exhausted : Outcome α).left = 0 := rfl

theorem left_eq_of_after? {outcome : Outcome α} {after : Reader}
    (h : outcome.after? = some after) : outcome.left = after.size := by
  rw [left, h]
  rfl

/-- What goes on from a value without taking a character leaves as many as there were. -/
theorem left_andThen {outcome : Outcome α} {next : α → Reader → Outcome β}
    (hnext : ∀ result mid, (next result mid).left = mid.size) :
    (outcome.andThen next).left = outcome.left := by
  cases outcome with
  | value result mid => exact hnext result mid
  | failed failure after => rfl
  | dangling after => rfl
  | exhausted => rfl

@[simp]
theorem left_map (f : α → β) (outcome : Outcome α) : (outcome.map f).left = outcome.left :=
  left_andThen fun _ _ => rfl

theorem left_withTable (reader : Reader) (table : ReadTable) (step : Reader → Outcome α) :
    (reader.withTable table step).left = (step { reader with table }).left := by
  unfold Reader.withTable
  cases step { reader with table } <;> rfl

/-- A step that goes on leaves no more than there was. -/
theorem Leaves.left_le {before : Reader} {used : α → Nat} {outcome : Outcome α}
    (h : outcome.Leaves before used) : outcome.left ≤ before.size := by
  cases outcome with
  | value result after => exact h.1.size_le
  | failed failure after => exact Reader.Continues.size_le h
  | dangling after => exact Nat.zero_le _
  | exhausted => exact Nat.zero_le _

/-- What goes on from a value goes on with the same table. -/
theorem Leaves.table_eq {before mid : Reader} {used : α → Nat} {outcome : Outcome α} {result : α}
    (h : outcome.Leaves before used) (hvalue : outcome = .value result mid) :
    mid.table = before.table := by
  subst hvalue
  exact h.1.table

end Outcome

/-- A plain token takes a character, whatever comes of it. -/
theorem Reader.left_takeSymbol_lt {reader : Reader} {c : Char} (hpeek : reader.peek? = some c)
    (hwhite : Unicode.isWhitespace c = false) (hbinding : reader.table.binding? c = none) :
    reader.takeSymbol.left < reader.size := by
  have hsize := size_advance hpeek
  have hleaves := takeSymbol_leaves hpeek hwhite hbinding
  cases hsymbol : reader.takeSymbol with
  | value result after =>
    rw [hsymbol] at hleaves
    exact hleaves.2
  | failed failure after =>
    -- a plain token never fails
    unfold takeSymbol at hsymbol
    simp only at hsymbol
    split at hsymbol <;> cases hsymbol
  | dangling after => exact Nat.lt_of_lt_of_eq (Nat.succ_pos _) hsize
  | exhausted => exact Nat.lt_of_lt_of_eq (Nat.succ_pos _) hsize

/-! ## What the characters pay for -/

namespace Steps

/-- The handlers that a number of characters pays for, with tables that nest `depth` deep. -/
def handlers (depth size : Nat) : Nat := (depth + 1) * size

theorem handlers_le {depth size size' : Nat} (h : size ≤ size') :
    handlers depth size ≤ handlers depth size' :=
  Nat.mul_le_mul_left _ h

/-- A further character pays for a chain of delegations and the handler at its end. -/
theorem handlers_lt {depth size size' : Nat} (h : size < size') :
    handlers depth size + depth + 1 ≤ handlers depth size' := by
  have hmul : (depth + 1) * (size + 1) ≤ (depth + 1) * size' := Nat.mul_le_mul_left _ h
  rw [Nat.mul_succ] at hmul
  exact hmul

theorem lt_of_handlers_lt {depth size size' : Nat}
    (h : handlers depth size < handlers depth size') : size < size' :=
  Nat.lt_of_not_le fun hle => Nat.not_lt_of_le (handlers_le hle) h

/-- The characters that the steps take pay for the handlers that they start. A form that starts with
a character takes one, and uses its share up to `limit`, which bounds the nesting of the handler
there. -/
structure Pays (depth : Nat) (steps : Steps) (tally : Tally) : Prop where
  /-- A form that starts with a character takes one, also when it fails. -/
  shortens : ∀ (reader : Reader) c, reader.table.Ordinary → reader.table.NestsAtMost depth →
    reader.skipWhitespace.peek? = some c → (steps.form reader).left < reader.size
  /-- A form pays for its handlers. -/
  form : ∀ (reader : Reader) c limit, reader.table.Ordinary → reader.table.NestsAtMost depth →
    reader.skipWhitespace.peek? = some c →
    (∀ handler, reader.table.handler? c = some handler → handler.depth ≤ limit) →
    tally.form reader + handlers depth (steps.form reader).left + depth ≤
      handlers depth reader.size + limit
  /-- A datum pays for its handlers. -/
  next : ∀ reader : Reader, reader.table.Ordinary → reader.table.NestsAtMost depth →
    tally.next reader + handlers depth (steps.next reader).left ≤ handlers depth reader.size
  /-- All data pay for their handlers. -/
  all : ∀ reader : Reader, reader.table.Ordinary → reader.table.NestsAtMost depth →
    tally.all reader + handlers depth (steps.all reader).left ≤ handlers depth reader.size
  /-- The items of a list pay for their handlers. -/
  items : ∀ start (reader : Reader), reader.table.Ordinary → reader.table.NestsAtMost depth →
    tally.items reader + handlers depth (steps.items start reader).left ≤
      handlers depth reader.size

/-- What goes on from a value is paid for by the characters that the value has left. -/
theorem pays_andThen {α β : Type} {depth spent total : Nat} {outcome : Outcome α}
    {next : α → Reader → Outcome β} {count : α → Reader → Nat}
    (h : spent + handlers depth outcome.left ≤ total)
    (hnext : ∀ result mid, outcome = .value result mid →
      count result mid + handlers depth (next result mid).left ≤ handlers depth mid.size) :
    spent + outcome.countThen count + handlers depth (outcome.andThen next).left ≤ total := by
  cases outcome with
  | value result mid =>
    have hmid := hnext result mid rfl
    simp only [Outcome.countThen, Outcome.andThen_value, Outcome.left_value] at h hmid ⊢
    omega
  | failed failure after => exact h
  | dangling after => exact h
  | exhausted => exact h

section Step

variable {stores : Stores} {steps : Steps} {tally : Tally} {depth : Nat}
  (h : steps.Pays depth tally)

include h

/-- A form at a character is paid for by the characters that it takes. -/
theorem Pays.form_le {reader : Reader} {c : Char} (htable : reader.table.Ordinary)
    (hnests : reader.table.NestsAtMost depth) (hpeek : reader.skipWhitespace.peek? = some c) :
    tally.form reader + handlers depth (steps.form reader).left ≤ handlers depth reader.size := by
  have hform := h.form reader c depth htable hnests hpeek fun _ hhandler => hnests.depth_le hhandler
  omega

/-- A delegation has one fallback table less to pay for than the handler that delegates. -/
theorem delegate_pays {fallback : ReadTable} (hfallback : fallback.Ordinary) {limit : Nat}
    (hlimit : depthOfTable fallback + 1 ≤ limit) (hdepth : depthOfTable fallback ≤ depth)
    {reader : Reader} (htable : reader.table.Ordinary) (hnests : reader.table.NestsAtMost depth)
    {c : Char} (hpeek : reader.peek? = some c) (hwhite : Unicode.isWhitespace c = false) :
    tally.delegate fallback c reader.advance +
        handlers depth (steps.delegate fallback c reader.advance).left + depth + 1 ≤
      handlers depth reader.size + limit := by
  have hfallbackNests := ReadTable.nestsAtMost_depth fallback
  have hstay := Reader.skipWhitespace_of_peek? hpeek hwhite
  have hskip : reader.skipWhitespace.peek? = some c := by rw [hstay, hpeek]
  -- the form starts at the trigger again, which is bound as in the fallback table
  have htop : ∀ handler, (reader.table.rebindFrom fallback c).handler? c = some handler →
      handler.depth ≤ limit - 1 := by
    intro handler hhandler
    rw [DispatchTable.handler?_rebindFrom_self] at hhandler
    have hnested : handler.depth ≤ depthOfTable fallback := hfallbackNests.depth_le hhandler
    omega
  -- so the form uses one less of its share than the handler that delegates may use
  have hform := h.form { reader with table := reader.table.rebindFrom fallback c } c (limit - 1)
    (htable.rebindFrom hfallback c) (hnests.rebindFrom (hfallbackNests.mono hdepth) c) hskip htop
  change _ ≤ handlers depth reader.size + (limit - 1) at hform
  rw [delegate, Tally.delegate, Reader.unread_advance hpeek, Outcome.left_withTable]
  change tally.form { reader with table := reader.table.rebindFrom fallback c } +
    handlers depth (steps.form { reader with table := reader.table.rebindFrom fallback c }).left +
      depth + 1 ≤ handlers depth reader.size + limit
  omega

/-- An ordinary handler is paid for, together with the handlers that it starts. -/
theorem handle_pays {handler : Handler} (hhandler : handler.Ordinary) {limit : Nat}
    (hlimit : handler.depth ≤ limit) (hdepth : handler.depth ≤ depth) {reader : Reader}
    (htable : reader.table.Ordinary) (hnests : reader.table.NestsAtMost depth) {c : Char}
    (hpeek : reader.peek? = some c) (hwhite : Unicode.isWhitespace c = false) (start : Nat) :
    tally.handle stores handler c reader.advance +
        handlers depth (handle stores steps handler c start reader.advance).left + depth + 1 ≤
      handlers depth reader.size + limit := by
  have hadvanced : reader.advance.table.Ordinary := htable
  have hsize := Reader.size_advance hpeek
  -- behind the trigger, what is started is paid for by what is taken there
  have hbehind : ∀ {count left : Nat},
      count + handlers depth left ≤ handlers depth reader.advance.size →
        count + handlers depth left + depth + 1 ≤ handlers depth reader.size + limit := by
    intro count left hcount
    have htrigger := @handlers_lt depth reader.advance.size reader.size (by omega)
    omega
  have hnothing : ∀ {outcome : Outcome (Option (Datum SymbolId))} {used : _ → Nat},
      outcome.Leaves reader.advance used →
        0 + handlers depth outcome.left + depth + 1 ≤ handlers depth reader.size + limit := by
    intro outcome used houtcome
    have hleft := @handlers_le depth _ _ houtcome.left_le
    exact hbehind (by omega)
  cases hhandler with
  | list =>
    rw [handle, Tally.handle, Outcome.left_map]
    exact hbehind (h.items start reader.advance hadvanced hnests)
  | close => exact hbehind (Nat.le_of_eq (Nat.zero_add _))
  | text => exact hnothing (reader.advance.takeText_leaves c start)
  | quote =>
    rw [handle, Tally.handle, Outcome.left_andThen (by rintro (_ | datum) mid <;> rfl)]
    exact hbehind (h.next reader.advance hadvanced hnests)
  | comment =>
    have hskip := reader.advance.continues_drop
      (reader.advance.cursor.remaining.takeWhile (· ≠ '\n')).length reader.host
    exact @hnothing (.value none _) (fun _ => 0) ⟨hskip, hskip.size_le⟩
  | aliasing store => exact hnothing (reader.advance.takeReference_leaves _ c start)
  | sentinel store hfallback =>
    rw [handle, Tally.handle]
    rw [Handler.depth] at hlimit hdepth
    split
    · exact hnothing (reader.advance.takeReference_leaves _ c start)
    · exact delegate_pays h hfallback hlimit (by omega) htable hnests hpeek hwhite
  | delegating hfallback =>
    rw [Handler.depth] at hlimit hdepth
    exact delegate_pays h hfallback hlimit (by omega) htable hnests hpeek hwhite

/-- A form at a character is paid for with one more call. -/
theorem readForm_pays {limit : Nat} {reader : Reader} (htable : reader.table.Ordinary)
    (hnests : reader.table.NestsAtMost depth) {c : Char}
    (hpeek : reader.skipWhitespace.peek? = some c)
    (hlimit : ∀ handler, reader.table.handler? c = some handler → handler.depth ≤ limit) :
    tally.readForm stores reader + handlers depth (readForm stores steps reader).left + depth ≤
      handlers depth reader.size + limit := by
  have hwhite := Reader.isWhitespace_of_peek? hpeek
  have hskip := @handlers_le depth _ _ reader.continues_skipWhitespace.size_le
  cases hbinding : reader.table.binding? c with
  | none =>
    -- no handler is started, and the share of a whole character is left over
    have htoken := @handlers_lt depth _ _
      (reader.skipWhitespace.left_takeSymbol_lt hpeek hwhite hbinding)
    rw [readForm_of_unbound hpeek hbinding, Tally.readForm_of_unbound hpeek hbinding,
      Outcome.left_map]
    omega
  | some binding =>
    have hhandler : reader.table.handler? c = some binding.handler :=
      Option.map_eq_some_iff.2 ⟨binding, hbinding, rfl⟩
    have hpays := @handle_pays stores steps tally depth h _ (htable c binding hbinding) limit
      (hlimit _ hhandler) (hnests c binding hbinding) reader.skipWhitespace htable hnests c hpeek
      hwhite reader.skipWhitespace.cursor.offset
    rw [readForm_of_bound hpeek hbinding, Tally.readForm_of_bound hpeek hbinding]
    omega

/-- A form at a character takes a character with one more call, also when it fails. -/
theorem readForm_shortens {reader : Reader} (htable : reader.table.Ordinary)
    (hnests : reader.table.NestsAtMost depth) {c : Char}
    (hpeek : reader.skipWhitespace.peek? = some c) :
    (readForm stores steps reader).left < reader.size := by
  have hwhite := Reader.isWhitespace_of_peek? hpeek
  have hskip := reader.continues_skipWhitespace.size_le
  cases hbinding : reader.table.binding? c with
  | none =>
    rw [readForm_of_unbound hpeek hbinding, Outcome.left_map]
    exact Nat.lt_of_lt_of_le (reader.skipWhitespace.left_takeSymbol_lt hpeek hwhite hbinding) hskip
  | some binding =>
    -- the handler itself is paid for, so some character was taken
    have hpays := @readForm_pays stores steps tally depth h depth reader htable hnests c hpeek
      fun _ hhandler => hnests.depth_le hhandler
    rw [Tally.readForm_of_bound hpeek hbinding] at hpays
    exact @lt_of_handlers_lt depth _ _ (by omega)

variable (hadvances : steps.Advances)

include hadvances

/-- The next datum is paid for with one more call. -/
theorem readNext_pays {reader : Reader} (htable : reader.table.Ordinary)
    (hnests : reader.table.NestsAtMost depth) :
    tally.readNext steps reader + handlers depth (readNext steps reader).left ≤
      handlers depth reader.size := by
  have hskip := @handlers_le depth _ _ reader.continues_skipWhitespace.size_le
  unfold readNext Tally.readNext
  simp only
  split
  · simpa using hskip
  next hend =>
    obtain ⟨c, hnext⟩ := Cursor.exists_peek?_of_isAtEnd (Bool.eq_false_iff.2 hend)
    have hpeek : reader.skipWhitespace.skipWhitespace.peek? = some c := by
      rw [reader.skipWhitespace_skipWhitespace]
      exact hnext
    refine Nat.le_trans (pays_andThen (h.form_le htable hnests hpeek) ?_) hskip
    intro result mid hmid
    have hmidTable : mid.table = reader.table :=
      (hadvances.form reader.skipWhitespace htable).table_eq hmid
    cases result with
    | some datum => simp
    -- a form without a value is passed over, and the next datum is read behind it
    | none => exact h.next mid (hmidTable ▸ htable) (hmidTable ▸ hnests)

/-- All data are paid for with one more call. -/
theorem readAll_pays {reader : Reader} (htable : reader.table.Ordinary)
    (hnests : reader.table.NestsAtMost depth) :
    tally.readAll steps reader + handlers depth (readAll steps reader).left ≤
      handlers depth reader.size := by
  refine pays_andThen (h.next reader htable hnests) ?_
  intro result mid hmid
  have hmidTable : mid.table = reader.table := (hadvances.next reader htable).table_eq hmid
  cases result with
  | none => simp
  | some datum =>
    rw [Outcome.left_map]
    exact h.all mid (hmidTable ▸ htable) (hmidTable ▸ hnests)

/-- The items of a list are paid for with one more call. -/
theorem readItems_pays {reader : Reader} (htable : reader.table.Ordinary)
    (hnests : reader.table.NestsAtMost depth) (start : Nat) :
    tally.readItems steps reader + handlers depth (readItems steps start reader).left ≤
      handlers depth reader.size := by
  have hskip := @handlers_le depth _ _ reader.continues_skipWhitespace.size_le
  unfold readItems Tally.readItems
  simp only
  cases hpeek : reader.skipWhitespace.peek? with
  | none => simpa using hskip
  | some c =>
    simp only
    split
    · -- the closing parenthesis is taken without a handler
      have hadvance := @handlers_le depth _ _ reader.skipWhitespace.continues_advance.size_le
      simp only [Outcome.left_value]
      omega
    · rw [← reader.skipWhitespace_skipWhitespace] at hpeek
      refine Nat.le_trans (pays_andThen (h.form_le htable hnests hpeek) ?_) hskip
      intro result mid hmid
      have hmidTable : mid.table = reader.table :=
        (hadvances.form reader.skipWhitespace htable).table_eq hmid
      rw [Outcome.left_map]
      exact h.items start mid (hmidTable ▸ htable) (hmidTable ▸ hnests)

end Step

/-- However many calls are allowed inside each other, the steps pay for their handlers. -/
theorem pays_upTo (stores : Stores) (depth count : Nat) :
    (upTo stores count).Pays depth (Tally.upTo stores count) := by
  -- by induction on the calls; the bound on the nesting stays the same, as delegations keep to it
  induction count with
  | zero =>
    -- steps that are given up start nothing and leave nothing
    have hpos : ∀ {reader : Reader} {c : Char}, reader.skipWhitespace.peek? = some c →
        0 < reader.size := by
      intro reader c hpeek
      have hskip := reader.continues_skipWhitespace.size_le
      have hsize := Reader.size_advance hpeek
      omega
    have hnone : ∀ reader : Reader, 0 + handlers depth 0 ≤ handlers depth reader.size :=
      fun reader => Nat.le_trans (Nat.le_of_eq (Nat.zero_add _)) (handlers_le (Nat.zero_le _))
    refine ⟨fun _ _ _ _ hpeek => hpos hpeek, ?_, fun reader _ _ => hnone reader,
      fun reader _ _ => hnone reader, fun _ reader _ _ => hnone reader⟩
    intro reader c limit _ _ hpeek _
    have htrigger := @handlers_lt depth 0 reader.size (hpos hpeek)
    change 0 + handlers depth 0 + depth ≤ handlers depth reader.size + limit
    omega
  | succ count ih =>
    have hadvances := advances_upTo stores count
    exact ⟨fun reader c htable hnests hpeek => readForm_shortens ih htable hnests hpeek,
      fun reader c limit htable hnests hpeek hlimit => readForm_pays ih htable hnests hpeek hlimit,
      fun reader htable hnests => readNext_pays ih hadvances htable hnests,
      fun reader htable hnests => readAll_pays ih hadvances htable hnests,
      fun start reader htable hnests => readItems_pays ih hadvances htable hnests start⟩

/-- A form pays for its handlers, also where no character starts one. -/
theorem form_le_upTo (stores : Stores) {depth : Nat} (count : Nat) {reader : Reader}
    (htable : reader.table.Ordinary) (hnests : reader.table.NestsAtMost depth) :
    (Tally.upTo stores count).form reader +
      handlers depth ((upTo stores count).form reader).left ≤ handlers depth reader.size := by
  cases hpeek : reader.skipWhitespace.peek? with
  | some c => exact (pays_upTo stores depth count).form_le htable hnests hpeek
  | none =>
    cases count with
    | zero => exact Nat.le_trans (Nat.le_of_eq (Nat.zero_add _)) (handlers_le (Nat.zero_le _))
    | succ count =>
      have hskip := @handlers_le depth _ _ reader.continues_skipWhitespace.size_le
      change (Tally.upTo stores count).readForm stores reader +
        handlers depth (readForm stores (upTo stores count) reader).left ≤ _
      rw [Tally.readForm_of_end hpeek, readForm_of_end hpeek, Nat.zero_add]
      exact hskip

end Steps

end AliasReader
