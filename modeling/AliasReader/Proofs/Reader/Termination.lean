import AliasReader.Proofs.Reader.Grounded
import AliasReader.Proofs.Reader.HandlerTally
import Mathlib.Data.List.TakeWhile

/-!
# The End of Reading

With an ordinary table reading comes to an end, however deep sentinels and delegations fall back on
each other. What it comes to is not for want of calls: a greater allowance changes nothing. The
handlers that are started for it are bounded by the characters that it takes, and a form takes a
character wherever one is left to start it, so that no loop over forms stays in one place.

## Main definitions

* `Outcome.UpheldBy` and `Steps.UpheldBy`: what steps come to with some calls, they come to with
  more calls;
* `Reader.Ends`: a reading comes to an end, after a bounded number of handlers.

## Main results

* `Steps.upheldBy_upTo`: more calls change no outcome that was not given up;
* `Reader.reading_ends`: reading a form, a datum or all data ends, and a form makes progress.
-/

namespace AliasReader

/-! ## More calls -/

namespace Outcome

variable {α β : Type}

/-- The second outcome is the first one, unless the first one was given up. -/
def UpheldBy (first second : Outcome α) : Prop :=
  first = .exhausted ∨ second = first

theorem UpheldBy.refl (outcome : Outcome α) : outcome.UpheldBy outcome := Or.inr rfl

theorem UpheldBy.eq {first second : Outcome α} (h : first.UpheldBy second)
    (hfirst : first ≠ .exhausted) : second = first :=
  h.resolve_left hfirst

theorem UpheldBy.andThen {first second : Outcome α} {next next' : α → Reader → Outcome β}
    (h : first.UpheldBy second)
    (hnext : ∀ result mid, (next result mid).UpheldBy (next' result mid)) :
    (first.andThen next).UpheldBy (second.andThen next') := by
  rcases h with rfl | rfl
  · exact Or.inl rfl
  · cases second with
    | value result mid => exact hnext result mid
    | failed failure after => exact .refl _
    | dangling after => exact .refl _
    | exhausted => exact .refl _

theorem UpheldBy.map {first second : Outcome α} (h : first.UpheldBy second) (f : α → β) :
    (first.map f).UpheldBy (second.map f) :=
  h.andThen fun _ _ => .refl _

theorem UpheldBy.onReturn {first second : Outcome α} (h : first.UpheldBy second)
    (change : Reader → Reader) : (first.onReturn change).UpheldBy (second.onReturn change) := by
  rcases h with rfl | rfl
  · exact Or.inl rfl
  · exact .refl _

end Outcome

namespace Steps

/-- What the first steps come to, the second ones come to as well. -/
structure UpheldBy (steps steps' : Steps) : Prop where
  /-- Forms are read alike. -/
  form : ∀ reader, (steps.form reader).UpheldBy (steps'.form reader)
  /-- Data are read alike. -/
  next : ∀ reader, (steps.next reader).UpheldBy (steps'.next reader)
  /-- All data are read alike. -/
  all : ∀ reader, (steps.all reader).UpheldBy (steps'.all reader)
  /-- The items of lists are read alike. -/
  items : ∀ start reader, (steps.items start reader).UpheldBy (steps'.items start reader)

section Step

variable {stores : Stores} {steps steps' : Steps} (h : steps.UpheldBy steps')

include h

theorem handle_upheldBy (handler : Handler) (trigger : Char) (start : Nat) (reader : Reader) :
    (handle stores steps handler trigger start reader).UpheldBy
      (handle stores steps' handler trigger start reader) := by
  cases handler with
  | list => exact (h.items start reader).map _
  | quote =>
    -- what is made of the datum depends on the datum alone
    refine (h.next reader).andThen fun result mid => ?_
    cases result <;> exact .refl _
  | sentinel store fallback =>
    rw [handle, handle]
    -- a reference calls no other step; a delegation reads a form and sets the table back
    split
    · exact .refl _
    · exact (h.form _).onReturn _
  | delegating fallback => exact (h.form _).onReturn _
  | wrap => exact (h.form reader).map _
  | gather => exact (h.all reader).map _
  | expand content => exact h.form _
  | underCase policy => exact (h.form _).onReturn _
  | inNamespace id => exact (h.form _).onReturn _
  | close | text | comment | aliasing store | nothing | constant content | position => exact .refl _

theorem readForm_upheldBy (reader : Reader) :
    (readForm stores steps reader).UpheldBy (readForm stores steps' reader) := by
  unfold readForm
  simp only
  split
  · exact .refl _
  · split
    · exact handle_upheldBy h _ _ _ _
    · exact .refl _

theorem readNext_upheldBy (reader : Reader) :
    (readNext steps reader).UpheldBy (readNext steps' reader) := by
  unfold readNext
  simp only
  split
  · exact .refl _
  · refine (h.form _).andThen fun result mid => ?_
    cases result with
    | some datum => exact .refl _
    | none => exact h.next mid

theorem readAll_upheldBy (reader : Reader) :
    (readAll steps reader).UpheldBy (readAll steps' reader) := by
  refine (h.next reader).andThen fun result mid => ?_
  cases result with
  | none => exact .refl _
  | some datum => exact (h.all mid).map _

theorem readItems_upheldBy (start : Nat) (reader : Reader) :
    (readItems steps start reader).UpheldBy (readItems steps' start reader) := by
  unfold readItems
  simp only
  split
  · exact .refl _
  · split
    · exact .refl _
    · exact (h.form _).andThen fun _ mid => (h.items start mid).map _

end Step

/-- More calls change no outcome that was not given up. -/
theorem upheldBy_upTo (stores : Stores) {count count' : Nat} (hcount : count ≤ count') :
    (upTo stores count).UpheldBy (upTo stores count') := by
  -- the greater count stays free, as it goes down together with the smaller one
  induction count generalizing count' with
  | zero =>
    exact ⟨fun _ => Or.inl rfl, fun _ => Or.inl rfl, fun _ => Or.inl rfl, fun _ _ => Or.inl rfl⟩
  | succ count ih =>
    obtain ⟨count', rfl⟩ := Nat.exists_eq_succ_of_ne_zero (by omega : count' ≠ 0)
    have hsteps := ih (Nat.le_of_succ_le_succ hcount)
    exact ⟨readForm_upheldBy hsteps, readNext_upheldBy hsteps, readAll_upheldBy hsteps,
      readItems_upheldBy hsteps⟩

end Steps

/-! ## Readings that end -/

/-- A step that comes to an end, and meets no handle that names nothing, comes to a value or a
failure. -/
theorem Outcome.Grounded.exists_after? {α : Type} {symbols : α → List SymbolId}
    {outcome : Outcome α} (h : outcome.Grounded symbols) (hends : outcome ≠ .exhausted) :
    ∃ after, outcome.after? = some after := by
  rcases outcome with ⟨result, after⟩ | ⟨failure, after⟩ | after | _
  · exact ⟨after, rfl⟩
  · exact ⟨after, rfl⟩
  · exact h.elim
  · exact absurd rfl hends

namespace Reader

/-- A reading comes to an end in the outcome. Which one of the steps of reading it is, is told by
`run`, and by `started` for the handlers that are started in it. -/
structure Ends {α : Type} (stores : Stores) (reader : Reader) (run : Steps → Reader → Outcome α)
    (started : Tally → Reader → Nat) (outcome : Outcome α) : Prop where
  /-- The reading is not given up. -/
  ends : outcome ≠ .exhausted
  /-- The allowance has no part in the outcome: with more calls it is the same. -/
  settled : ∀ count, reader.allowance ≤ count → run (Steps.upTo stores count) reader = outcome
  /-- Every character that is taken starts at most one handler more than tables nest. -/
  handlers_le : ∀ count, started (Tally.upTo stores count) reader ≤
    (reader.table.depth + 1) * (reader.size - (run (Steps.upTo stores count) reader).left)
  /-- In a namespace that exists, the reading comes to a value or a failure. -/
  returns : reader.host.Reachable → reader.host.hasNamespace reader.current = true →
    ∃ after, outcome.after? = some after

/-- Where a character is left that is no white space, there is one that starts a form. -/
theorem exists_peek?_skipWhitespace {reader : Reader} {c : Char}
    (hmem : c ∈ reader.cursor.remaining) (hwhite : Unicode.isWhitespace c = false) :
    ∃ d, reader.skipWhitespace.peek? = some d := by
  have hremaining : reader.skipWhitespace.cursor.remaining =
      reader.cursor.remaining.dropWhile Unicode.isWhitespace :=
    reader.cursor.remaining_skipWhile Unicode.isWhitespace
  cases hpeek : reader.skipWhitespace.peek? with
  | some d => exact ⟨d, rfl⟩
  | none =>
    have hnil : reader.skipWhitespace.cursor.remaining = [] := List.head?_eq_none_iff.1 hpeek
    rw [hremaining, List.dropWhile_eq_nil_iff] at hnil
    rw [hnil c hmem] at hwhite
    cases hwhite

/-- A form takes a character wherever one is left that is no white space, whatever it comes to and
however many calls it is allowed. -/
theorem size_lt_of_form (stores : Stores) {reader : Reader} (htable : reader.table.Ordinary)
    {c : Char} (hmem : c ∈ reader.cursor.remaining) (hwhite : Unicode.isWhitespace c = false)
    (count : Nat) {after : Reader}
    (hafter : ((Steps.upTo stores count).form reader).after? = some after) :
    after.size < reader.size := by
  obtain ⟨d, hpeek⟩ := exists_peek?_skipWhitespace hmem hwhite
  rw [← Outcome.left_eq_of_after? hafter]
  exact (Steps.pays_upTo stores reader.table.depth count).shortens reader d htable
    (ReadTable.nestsAtMost_depth reader.table) hpeek

/-- A reading ends if it is not given up, more calls change nothing, the characters pay for the
handlers, and no handle that it meets names nothing. -/
theorem Ends.of_pays {α : Type} {stores : Stores} {reader : Reader}
    {run : Steps → Reader → Outcome α} {started : Tally → Reader → Nat} {outcome : Outcome α}
    {symbols : α → List SymbolId}
    (houtcome : run (Steps.upTo stores reader.allowance) reader = outcome)
    (hends : outcome ≠ .exhausted)
    (hupheld : ∀ {steps steps' : Steps}, steps.UpheldBy steps' →
      (run steps reader).UpheldBy (run steps' reader))
    (hpays : ∀ count, started (Tally.upTo stores count) reader +
        Steps.handlers reader.table.depth (run (Steps.upTo stores count) reader).left ≤
      Steps.handlers reader.table.depth reader.size)
    (htable : reader.table.Ordinary) (hgrounded : reader.Sound → outcome.Grounded symbols) :
    reader.Ends stores run started outcome := by
  subst houtcome
  -- the fields in their order: the same with more calls, the handlers, a value or a failure
  refine ⟨hends, fun count hcount => ?_, fun count => ?_, fun hhost hcurrent => ?_⟩
  · exact (hupheld (Steps.upheldBy_upTo stores hcount)).eq hends
  · rw [Nat.mul_sub]
    exact Nat.le_sub_of_add_le (hpays count)
  · exact (hgrounded ⟨htable, hhost, hcurrent⟩).exists_after? hends

/-- Reading always ends and always makes progress. With an ordinary table, over any aliases, from
any place and with any characters put back, reading a form, a datum or all data comes to an end
after a bounded number of handlers; and a form that is read where a character is left that is no
white space leaves fewer characters than it found, whether it has a datum, has no value or fails. -/
theorem reading_ends (stores : Stores) {reader : Reader} (htable : reader.table.Ordinary) :
    reader.Ends stores Steps.form Tally.form (reader.readForm stores) ∧
      reader.Ends stores Steps.next Tally.next (reader.readNext stores) ∧
      reader.Ends stores Steps.all Tally.all (reader.readAll stores) ∧
      ∀ c ∈ reader.cursor.remaining, Unicode.isWhitespace c = false → ∀ count after,
        ((Steps.upTo stores count).form reader).after? = some after →
          after.size < reader.size := by
  have hnests := ReadTable.nestsAtMost_depth reader.table
  have hpays := Steps.pays_upTo stores reader.table.depth
  refine ⟨?_, ?_, ?_, ?_⟩
  · exact .of_pays rfl (readForm_ne_exhausted htable) (fun h => h.form reader)
      (fun count => Steps.form_le_upTo stores count htable hnests) htable (readForm_grounded stores)
  · exact .of_pays rfl (readNext_ne_exhausted htable) (fun h => h.next reader)
      (fun count => (hpays count).next reader htable hnests) htable (readNext_grounded stores)
  · exact .of_pays rfl (readAll_ne_exhausted htable) (fun h => h.all reader)
      (fun count => (hpays count).all reader htable hnests) htable (readAll_grounded stores)
  · intro c hmem hwhite count after hafter
    exact size_lt_of_form stores htable hmem hwhite count hafter

/-- A reader in whose table `$` is a sentinel that falls back on another sentinel at `$`, which in
turn falls back on a quote. The first of the two `$` that it has left was put back. -/
def twiceGuarded : Reader :=
  let quoting : ReadTable := ReadTable.standard.bind '$' ⟨.quote, true⟩
  let guarded := quoting.installSentinel '$' none ⟨0⟩
  ⟨(Cursor.ofString "$(a) b").unread '$', guarded.installSentinel '$' none ⟨1⟩,
    Reference.libraryHost, ⟨1⟩⟩

/-- Without aliases the first `$` takes three handlers, the second one quotes at once, and a list is
the last of the five handlers. -/
theorem reading_ends_twiceGuarded :
    twiceGuarded.table.Ordinary ∧ twiceGuarded.table.depth = 2 ∧
      twiceGuarded.cursor.remaining = "$$(a) b".toList ∧
      (Tally.upTo (fun _ => .empty) twiceGuarded.allowance).form twiceGuarded = 5 ∧
      ∃ after, (twiceGuarded.readForm fun _ => .empty).after? = some after ∧
        after.size < twiceGuarded.size ∧ 5 ≤ (2 + 1) * (twiceGuarded.size - after.size) := by
  have hquoting : ReadTable.Ordinary (ReadTable.standard.bind '$' ⟨.quote, true⟩) :=
    DispatchTable.AllHandlers.bind (ReadTable.ordinary_standard .upcase) .quote '$'
  have hnone : ∀ other ∈ (none : Option ReadTable), ReadTable.Ordinary other := by rintro _ ⟨⟩
  have htable : twiceGuarded.table.Ordinary :=
    (hquoting.installSentinel hnone '$' ⟨0⟩).installSentinel hnone '$' ⟨1⟩
  have hdepth : twiceGuarded.table.depth = 2 := by decide
  have hhost : twiceGuarded.host.Reachable := SymbolTable.Reachable.empty.performAll _
  have hcurrent : twiceGuarded.host.hasNamespace twiceGuarded.current = true := by decide
  have hremaining : twiceGuarded.cursor.remaining = "$$(a) b".toList := by decide
  have hstarted : (Tally.upTo (fun _ => .empty) twiceGuarded.allowance).form twiceGuarded = 5 := by
    decide +kernel
  obtain ⟨hform, -, -, hprogress⟩ := reading_ends (fun _ => .empty) htable
  obtain ⟨after, hafter⟩ := hform.returns hhost hcurrent
  have hsettled := hform.settled twiceGuarded.allowance (Nat.le_refl _)
  have hbound := hform.handlers_le twiceGuarded.allowance
  rw [hstarted, hsettled, Outcome.left_eq_of_after? hafter, hdepth] at hbound
  have hless : after.size < twiceGuarded.size :=
    hprogress '(' (by rw [hremaining]; decide) (by decide) twiceGuarded.allowance after
      (by rw [hsettled, hafter])
  exact ⟨htable, hdepth, hremaining, hstarted, after, hafter, hless, hbound⟩

end Reader

end AliasReader
