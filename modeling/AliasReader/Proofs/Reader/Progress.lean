import AliasReader.Proofs.Reader.Ordinary
import AliasReader.Proofs.Reader.Walk

/-!
# Progress of Reading

With an ordinary table every step of reading goes on from the reader that it was given. A form
takes at least one character unless only white space remains, a datum and the end of a list take
one in any case.

## Main results

* `Steps.advances_upTo`: what each step leaves of the remaining characters.
-/

namespace AliasReader

/-! ## Outcomes that go on -/

namespace Outcome

variable {α β : Type}

/-- A step that comes to a value or a failure goes on from the reader that it was given. A value
takes at least the given number of characters. -/
def Leaves (before : Reader) (used : α → Nat) : Outcome α → Prop
  | value result after => before.Continues after ∧ after.size + used result ≤ before.size
  | failed _ after => before.Continues after
  | dangling _ => True
  | exhausted => True

/-- What goes on from a later reader goes on from an earlier one. -/
theorem Leaves.of_continues {before mid : Reader} {used used' : α → Nat} {outcome : Outcome α}
    (h : outcome.Leaves mid used) (hmid : before.Continues mid)
    (hused : ∀ result, mid.size + used' result ≤ before.size + used result) :
    outcome.Leaves before used' := by
  cases outcome with
  | value result after =>
    refine ⟨hmid.trans h.1, ?_⟩
    have hsize := h.2
    have hresult := hused result
    omega
  | failed failure after => exact hmid.trans h
  | dangling after => trivial
  | exhausted => trivial

/-- Steps that go on, one after the other, go on together. -/
theorem Leaves.andThen {before : Reader} {used : α → Nat} {used' : β → Nat} {outcome : Outcome α}
    {next : α → Reader → Outcome β} (h : outcome.Leaves before used)
    (hnext : ∀ result mid, before.Continues mid → mid.size + used result ≤ before.size →
      (next result mid).Leaves before used') : (outcome.andThen next).Leaves before used' := by
  cases outcome with
  | value result mid => exact hnext result mid h.1 h.2
  | failed failure after => exact h
  | dangling after => trivial
  | exhausted => trivial

theorem Leaves.map {before : Reader} {count : Nat} {outcome : Outcome α}
    (h : outcome.Leaves before fun _ => count) (f : α → β) :
    (outcome.map f).Leaves before fun _ => count :=
  h.andThen fun _ _ hmid hsize => ⟨hmid, hsize⟩

end Outcome

/-- A step under another table goes on if it does so from the reader with that table. -/
theorem Reader.leaves_withTable {α : Type} {reader : Reader} {table : ReadTable}
    {used : α → Nat} {step : Reader → Outcome α}
    (h : (step { reader with table }).Leaves { reader with table } used) :
    (reader.withTable table step).Leaves reader used := by
  unfold Reader.withTable
  cases hstep : step { reader with table } with
  | value result after =>
    rw [hstep] at h
    exact ⟨⟨rfl, h.1.current, h.1.source, h.1.suffix⟩, h.2⟩
  | failed failure after =>
    rw [hstep] at h
    exact ⟨rfl, h.current, h.source, h.suffix⟩
  | dangling after => trivial
  | exhausted => trivial

/-! ## Steps that call no other step -/

namespace Reader

/-- An unbound character that is no white space belongs to the token that it starts. -/
theorem token_ne_nil {reader : Reader} {c : Char} (hpeek : reader.peek? = some c)
    (hwhite : Unicode.isWhitespace c = false) (hbinding : reader.table.binding? c = none) :
    reader.cursor.remaining.takeWhile (continuesToken reader.table) ≠ [] := by
  have hcontinues : continuesToken reader.table c = true := by
    simp [continuesToken, hwhite, DispatchTable.isTerminating, hbinding]
  rw [Cursor.remaining_of_peek? hpeek, List.takeWhile_cons_of_pos hcontinues]
  exact List.cons_ne_nil _ _

/-- A plain token takes at least one character, if it starts with an unbound one. -/
theorem takeSymbol_leaves {reader : Reader} {c : Char} (hpeek : reader.peek? = some c)
    (hwhite : Unicode.isWhitespace c = false) (hbinding : reader.table.binding? c = none) :
    reader.takeSymbol.Leaves reader fun _ => 1 := by
  have hlength : 1 ≤ (reader.cursor.remaining.takeWhile (continuesToken reader.table)).length :=
    List.length_pos_iff.2 (token_ne_nil hpeek hwhite hbinding)
  have hpos : 1 ≤ reader.size := by
    have hadvance := size_advance hpeek
    omega
  unfold takeSymbol
  simp only [Cursor.takeWhile]
  split
  next host _ =>
    refine ⟨reader.continues_drop _ host, ?_⟩
    simp only [size, Cursor.skipWhile, Cursor.remaining_drop, List.length_drop] at hpos ⊢
    omega
  next => trivial

theorem takeText_leaves (reader : Reader) (quote : Char) (start : Nat) :
    (reader.takeText quote start).Leaves reader fun _ => 0 := by
  unfold takeText
  split
  next text count _ =>
    have hcontinues := reader.continues_drop count reader.host
    exact ⟨hcontinues, hcontinues.size_le⟩
  next => exact reader.continues_drop _ reader.host

theorem takeReference_leaves (reader : Reader) (registry : AliasRegistry) (trigger : Char)
    (start : Nat) : (reader.takeReference registry trigger start).Leaves reader fun _ => 0 := by
  have hcontinues : ∀ cursor, (AliasToken.take reader.cursor).2 = cursor →
      reader.Continues { reader with cursor } := by
    rintro cursor rfl
    exact reader.continues_drop _ reader.host
  unfold takeReference
  cases htake : AliasToken.take reader.cursor with
  | mk token cursor =>
    have hcursor := hcontinues cursor (by rw [htake])
    simp only
    split
    · split
      · exact hcursor
      · trivial
    · split
      · exact ⟨hcursor, hcursor.size_le⟩
      · exact hcursor
      · trivial

end Reader

/-! ## Steps that call each other

What holds of the steps that are called is carried over to those that call them, step by step. -/

namespace Steps

variable {stores : Stores} {steps : Steps}

/-- The steps go on from every reader with an ordinary table. A form takes a character unless
only white space remains, a datum and the end of a list take one in any case. -/
structure Advances (steps : Steps) : Prop where
  /-- A form takes a character unless only white space remains. -/
  form : ∀ reader, reader.table.Ordinary → (steps.form reader).Leaves reader
    fun _ => if reader.skipWhitespace.cursor.isAtEnd then 0 else 1
  /-- A datum takes a character. -/
  next : ∀ reader, reader.table.Ordinary → (steps.next reader).Leaves reader
    fun result => if result.isSome then 1 else 0
  /-- All data go on. -/
  all : ∀ reader, reader.table.Ordinary → (steps.all reader).Leaves reader fun _ => 0
  /-- The closing parenthesis of a list is a character. -/
  items : ∀ start reader, reader.table.Ordinary →
    (steps.items start reader).Leaves reader fun _ => 1

/-- A delegation takes a character, as it reads the form again from its trigger. -/
theorem delegate_leaves (h : steps.Advances) {fallback : ReadTable}
    (hfallback : fallback.Ordinary) {reader : Reader} (htable : reader.table.Ordinary) {c : Char}
    (hpeek : reader.peek? = some c) (hwhite : Unicode.isWhitespace c = false) :
    (steps.delegate fallback c reader.advance).Leaves reader fun _ => 1 := by
  have htrigger : reader.skipWhitespace.cursor.isAtEnd = false := by
    rw [Reader.skipWhitespace_of_peek? hpeek hwhite]
    exact Reader.isAtEnd_eq_false hpeek
  -- the trigger that was read is put back, so the form starts with it
  rw [delegate, Reader.unread_advance hpeek]
  have hform := h.form { reader with table := reader.table.rebindFrom fallback c }
    (htable.rebindFrom hfallback c)
  have hsame : Reader.skipWhitespace { reader with table := reader.table.rebindFrom fallback c } =
      { reader.skipWhitespace with table := reader.table.rebindFrom fallback c } := rfl
  rw [hsame, htrigger] at hform
  exact Reader.leaves_withTable hform

/-- An ordinary handler takes its trigger at least. -/
theorem handle_leaves (h : steps.Advances) {handler : Handler} (hhandler : handler.Ordinary)
    {reader : Reader} (htable : reader.table.Ordinary) {c : Char}
    (hpeek : reader.peek? = some c) (hwhite : Unicode.isWhitespace c = false) (start : Nat) :
    (handle stores steps handler c start reader.advance).Leaves reader fun _ => 1 := by
  have hcontinues := reader.continues_advance
  have hsize := Reader.size_advance hpeek
  have hadvanced : reader.advance.table.Ordinary := htable
  -- what goes on behind the trigger has taken one character
  have hbehind : ∀ {outcome : Outcome (Option (Datum SymbolId))} (count : Nat),
      outcome.Leaves reader.advance (fun _ => count) → outcome.Leaves reader fun _ => 1 :=
    fun count houtcome => houtcome.of_continues hcontinues fun _ => by omega
  cases hhandler with
  | list =>
    exact hbehind 1 ((h.items start reader.advance hadvanced).map _)
  | close => exact hcontinues
  | text => exact hbehind 0 (reader.advance.takeText_leaves c start)
  | quote =>
    refine hbehind 0 ((h.next reader.advance hadvanced).andThen ?_)
    intro result mid hmid _
    cases result with
    | some datum => exact ⟨hmid, hmid.size_le⟩
    | none => exact hmid
  | comment =>
    have hskip := reader.advance.continues_drop
      (reader.advance.cursor.remaining.takeWhile (· ≠ '\n')).length reader.host
    exact hbehind 0 ⟨hskip, hskip.size_le⟩
  | aliasing store => exact hbehind 0 (reader.advance.takeReference_leaves _ c start)
  | sentinel store hfallback =>
    rw [handle]
    split
    · exact hbehind 0 (reader.advance.takeReference_leaves _ c start)
    · exact delegate_leaves h hfallback htable hpeek hwhite
  | delegating hfallback => exact delegate_leaves h hfallback htable hpeek hwhite

theorem readForm_leaves (h : steps.Advances) {reader : Reader} (htable : reader.table.Ordinary) :
    (readForm stores steps reader).Leaves reader
      fun _ => if reader.skipWhitespace.cursor.isAtEnd then 0 else 1 := by
  have hskip := reader.continues_skipWhitespace
  have hsize := hskip.size_le
  cases hpeek : reader.skipWhitespace.peek? with
  | none =>
    have hend : reader.skipWhitespace.cursor.isAtEnd = true := by
      have hcursor : reader.skipWhitespace.cursor.peek? = none := hpeek
      simp [Cursor.isAtEnd, hcursor]
    rw [readForm_of_end hpeek]
    exact ⟨hskip, by simpa [hend] using hsize⟩
  | some c =>
    have hwhite := Reader.isWhitespace_of_peek? hpeek
    -- one character is always enough
    have hone : ∀ {outcome : Outcome (Option (Datum SymbolId))},
        outcome.Leaves reader.skipWhitespace (fun _ => 1) → outcome.Leaves reader
          fun _ => if reader.skipWhitespace.cursor.isAtEnd then 0 else 1 :=
      fun houtcome => houtcome.of_continues hskip fun _ => by split <;> omega
    cases hbinding : reader.table.binding? c with
    | none =>
      rw [readForm_of_unbound hpeek hbinding]
      exact hone ((Reader.takeSymbol_leaves hpeek hwhite hbinding).map _)
    | some binding =>
      rw [readForm_of_bound hpeek hbinding]
      exact hone (@handle_leaves stores steps h _ (htable c binding hbinding) reader.skipWhitespace
        htable c hpeek hwhite _)

theorem readNext_leaves (h : steps.Advances) {reader : Reader} (htable : reader.table.Ordinary) :
    (readNext steps reader).Leaves reader fun result => if result.isSome then 1 else 0 := by
  have hskip := reader.continues_skipWhitespace
  have hsize := hskip.size_le
  unfold readNext
  simp only
  split
  · exact ⟨hskip, by simpa using hsize⟩
  next hend =>
    have hform := h.form reader.skipWhitespace htable
    rw [reader.skipWhitespace_skipWhitespace, if_neg hend] at hform
    refine (hform.andThen ?_).of_continues hskip fun _ => Nat.add_le_add_right hsize _
    intro result mid hmid hused
    cases result with
    | some datum => exact ⟨hmid, hused⟩
    | none =>
      -- what a form without a value took is taken in addition
      have hmidTable : mid.table.Ordinary := hmid.table ▸ htable
      exact (h.next mid hmidTable).of_continues hmid fun _ =>
        Nat.add_le_add_right hmid.size_le _

theorem readAll_leaves (h : steps.Advances) {reader : Reader} (htable : reader.table.Ordinary) :
    (readAll steps reader).Leaves reader fun _ => 0 := by
  refine (h.next reader htable).andThen ?_
  intro result mid hmid _
  cases result with
  | none => exact ⟨hmid, hmid.size_le⟩
  | some datum =>
    have hmidTable : mid.table.Ordinary := hmid.table ▸ htable
    exact ((h.all mid hmidTable).map _).of_continues hmid fun _ => hmid.size_le

theorem readItems_leaves (h : steps.Advances) {reader : Reader} (htable : reader.table.Ordinary)
    (start : Nat) : (readItems steps start reader).Leaves reader fun _ => 1 := by
  have hskip := reader.continues_skipWhitespace
  have hsize := hskip.size_le
  unfold readItems
  simp only
  cases hpeek : reader.skipWhitespace.peek? with
  | none => exact hskip
  | some c =>
    simp only
    split
    · -- the closing parenthesis itself is taken
      have hadvance := Reader.size_advance hpeek
      refine ⟨hskip.trans reader.skipWhitespace.continues_advance, ?_⟩
      simp only
      omega
    · refine ((h.form reader.skipWhitespace htable).andThen ?_).of_continues hskip
        fun _ => Nat.add_le_add_right hsize _
      intro result mid hmid _
      have hmidTable : mid.table.Ordinary := hmid.table ▸ htable
      exact ((h.items start mid hmidTable).map _).of_continues hmid
        fun _ => Nat.add_le_add_right hmid.size_le _

/-- However many calls are allowed inside each other, the steps go on. -/
theorem advances_upTo (stores : Stores) (count : Nat) : (upTo stores count).Advances := by
  -- steps that are given up take nothing and leave nothing to show
  induction count with
  | zero => exact ⟨fun _ _ => trivial, fun _ _ => trivial, fun _ _ => trivial, fun _ _ _ => trivial⟩
  | succ count ih =>
    exact ⟨fun _ htable => readForm_leaves ih htable, fun _ htable => readNext_leaves ih htable,
      fun _ htable => readAll_leaves ih htable,
      fun start _ htable => readItems_leaves ih htable start⟩

end Steps

/-- Reading a form goes on, and takes a character unless only white space remains. -/
theorem Reader.readForm_leaves (stores : Stores) {reader : Reader}
    (htable : reader.table.Ordinary) :
    (reader.readForm stores).Leaves reader
      fun _ => if reader.skipWhitespace.cursor.isAtEnd then 0 else 1 :=
  (Steps.advances_upTo stores reader.allowance).form reader htable

end AliasReader
