import AliasReader.Proofs.Reader.Progress
import AliasReader.Proofs.Source.Boundary

/-!
# Places of Read Failures

A failure tells the span from the character that its form starts with to the character at which
reading gave up. Both are places of one walk through the source text, also when the trigger was put
back for a delegation in between, so the span fits in the text.

## Main definitions

* `Outcome.FailsIn`: a failure of a step has its place in a text.

## Main results

* `Steps.failsIn_upTo`: each step fails in the source text only;
* `Reader.readForm_failsIn`: reading a form fails in the source text only.
-/

namespace AliasReader

namespace Reader

variable {before after : Reader} (h : before.Continues after) (hplace : before.cursor.InSource)

include h hplace

theorem Continues.inSource : after.cursor.InSource :=
  hplace.of_suffix h.source h.suffix

/-- The span from a reader to a later one fits in the source text. -/
theorem Continues.fitsIn_spanFrom :
    (after.cursor.spanFrom before.cursor.offset).FitsIn before.cursor.source :=
  hplace.fitsIn_spanFrom h.source h.suffix

end Reader

namespace Outcome

variable {α β : Type}

/-- If a step fails, the place of the failure lies in a text. -/
def FailsIn (source : String) : Outcome α → Prop
  | value _ _ => True
  | failed failure _ => failure.span.FitsIn source
  | dangling _ => True
  | exhausted => True

variable {source : String} {outcome : Outcome α}

theorem FailsIn.andThen {next : α → Reader → Outcome β} (h : outcome.FailsIn source)
    (hnext : ∀ result mid, outcome = .value result mid → (next result mid).FailsIn source) :
    (outcome.andThen next).FailsIn source := by
  rcases outcome with ⟨result, mid⟩ | ⟨failure, after⟩ | after | _
  · exact hnext result mid rfl
  · exact h
  · trivial
  · trivial

theorem FailsIn.map (h : outcome.FailsIn source) (f : α → β) :
    (outcome.map f).FailsIn source :=
  h.andThen fun _ _ _ => trivial

/-- A later reader has the same source text. -/
theorem FailsIn.of_continues {before after : Reader} (h : outcome.FailsIn after.cursor.source)
    (hcontinues : before.Continues after) : outcome.FailsIn before.cursor.source := by
  rw [← hcontinues.source]
  exact h

end Outcome

/-! ## Steps that call no other step -/

namespace Reader

variable {opening reader : Reader}

theorem failsIn_withTable {α : Type} {table : ReadTable} {step : Reader → Outcome α}
    {source : String} (h : (step { reader with table }).FailsIn source) :
    (reader.withTable table step).FailsIn source := by
  unfold withTable
  rcases hstep : step { reader with table } with ⟨result, after⟩ | ⟨failure, after⟩ | after | _
  · trivial
  · rw [hstep] at h
    exact h
  · trivial
  · trivial

theorem takeSymbol_failsIn (reader : Reader) (source : String) :
    reader.takeSymbol.FailsIn source := by
  unfold takeSymbol
  dsimp only
  split <;> trivial

section

variable (hcontinues : opening.Continues reader) (hplace : opening.cursor.InSource)

include hcontinues hplace

/-- A text that does not end fails from its opening quote on. -/
theorem takeText_failsIn (quote : Char) :
    (reader.takeText quote opening.cursor.offset).FailsIn opening.cursor.source := by
  unfold takeText
  split
  · trivial
  · exact (hcontinues.trans (reader.continues_drop _ reader.host)).fitsIn_spanFrom hplace

/-- A reference fails from its trigger to the end of its token. -/
theorem takeReference_failsIn (registry : AliasRegistry) (trigger : Char) :
    (reader.takeReference registry trigger opening.cursor.offset).FailsIn
      opening.cursor.source := by
  have hspan : ((AliasToken.take reader.cursor).2.spanFrom opening.cursor.offset).FitsIn
      opening.cursor.source :=
    (hcontinues.trans (reader.continues_drop _ reader.host)).fitsIn_spanFrom hplace
  unfold takeReference
  rcases htake : AliasToken.take reader.cursor with ⟨token, cursor⟩
  rw [htake] at hspan
  dsimp only
  split
  · split
    · exact hspan
    · trivial
  · split
    · trivial
    · exact hspan
    · trivial

end

end Reader

/-! ## Steps that call each other -/

namespace Steps

variable {stores : Stores} {steps : Steps}

/-- The steps fail in the source text only, from every reader in its source. The items of a list
fail from the opening parenthesis on, which was read at an earlier place. -/
structure FailsIn (steps : Steps) : Prop where
  /-- A form fails in the source text. -/
  form : ∀ reader, reader.table.Ordinary → reader.cursor.InSource →
    (steps.form reader).FailsIn reader.cursor.source
  /-- A datum fails in the source text. -/
  next : ∀ reader, reader.table.Ordinary → reader.cursor.InSource →
    (steps.next reader).FailsIn reader.cursor.source
  /-- All data fail in the source text. -/
  all : ∀ reader, reader.table.Ordinary → reader.cursor.InSource →
    (steps.all reader).FailsIn reader.cursor.source
  /-- The items of a list fail in the source text. -/
  items : ∀ opening reader : Reader, opening.Continues reader → opening.table.Ordinary →
    opening.cursor.InSource →
    (steps.items opening.cursor.offset reader).FailsIn opening.cursor.source

variable (h : steps.FailsIn) {reader : Reader} (htable : reader.table.Ordinary)
  (hplace : reader.cursor.InSource)

include h htable hplace

theorem delegate_failsIn {fallback : ReadTable} (hfallback : fallback.Ordinary) {c : Char}
    (hpeek : reader.peek? = some c) :
    (steps.delegate fallback c reader.advance).FailsIn reader.cursor.source := by
  -- with the trigger put back the reader is at its place again
  rw [delegate, Reader.unread_advance hpeek]
  apply Reader.failsIn_withTable
  exact h.form { reader with table := reader.table.rebindFrom fallback c }
    (htable.rebindFrom hfallback c) hplace

theorem handle_failsIn (hadvances : steps.Advances) {handler : Handler}
    (hhandler : handler.Ordinary) {c : Char} (hpeek : reader.peek? = some c) :
    (handle stores steps handler c reader.cursor.offset reader.advance).FailsIn
      reader.cursor.source := by
  have hadvance := reader.continues_advance
  cases hhandler with
  | list => exact (h.items reader reader.advance hadvance htable hplace).map _
  | close => exact hadvance.fitsIn_spanFrom hplace
  | text => exact Reader.takeText_failsIn hadvance hplace c
  | quote =>
    have hnext := h.next reader.advance htable (hadvance.inSource hplace)
    have hleaves := hadvances.next reader.advance htable
    refine (hnext.of_continues hadvance).andThen ?_
    intro result mid hvalue
    rw [hvalue] at hleaves
    rcases result with _ | datum
    · exact (hadvance.trans hleaves.1).fitsIn_spanFrom hplace
    · trivial
  | comment => trivial
  | aliasing store => exact Reader.takeReference_failsIn hadvance hplace _ c
  | sentinel store hfallback =>
    rw [handle]
    split
    · exact Reader.takeReference_failsIn hadvance hplace _ c
    · exact delegate_failsIn h htable hplace hfallback hpeek
  | delegating hfallback => exact delegate_failsIn h htable hplace hfallback hpeek

variable (hadvances : steps.Advances)

include hadvances

theorem readForm_failsIn : (readForm stores steps reader).FailsIn reader.cursor.source := by
  have hskip := reader.continues_skipWhitespace
  rcases hpeek : reader.skipWhitespace.peek? with _ | c
  · rw [readForm_of_end hpeek]
    trivial
  · rcases hbinding : reader.table.binding? c with _ | binding
    · rw [readForm_of_unbound hpeek hbinding]
      exact (reader.skipWhitespace.takeSymbol_failsIn _).map some
    · rw [readForm_of_bound hpeek hbinding]
      have hhandle := @handle_failsIn stores steps h reader.skipWhitespace htable
        (hskip.inSource hplace) hadvances _ (htable c binding hbinding) c hpeek
      exact hhandle.of_continues hskip

theorem readNext_failsIn : (readNext steps reader).FailsIn reader.cursor.source := by
  have hskip := reader.continues_skipWhitespace
  have hplace' := hskip.inSource hplace
  have hleaves := hadvances.form reader.skipWhitespace htable
  unfold readNext
  dsimp only
  split
  · trivial
  · refine ((h.form reader.skipWhitespace htable hplace').of_continues hskip).andThen ?_
    intro result mid hvalue
    rw [hvalue] at hleaves
    rcases result with _ | datum
    · have hmid := hskip.trans hleaves.1
      exact (h.next mid (hmid.table ▸ htable) (hmid.inSource hplace)).of_continues hmid
    · trivial

theorem readAll_failsIn : (readAll steps reader).FailsIn reader.cursor.source := by
  have hleaves := hadvances.next reader htable
  unfold readAll
  refine (h.next reader htable hplace).andThen ?_
  intro result mid hvalue
  rw [hvalue] at hleaves
  rcases result with _ | datum
  · trivial
  · have hmid := hleaves.1
    have hall := h.all mid (hmid.table ▸ htable) (hmid.inSource hplace)
    exact (hall.of_continues hmid).map _

omit htable hplace in
theorem readItems_failsIn {opening : Reader} (hcontinues : opening.Continues reader)
    (htable : opening.table.Ordinary) (hplace : opening.cursor.InSource) :
    (readItems steps opening.cursor.offset reader).FailsIn opening.cursor.source := by
  have hskip := hcontinues.trans reader.continues_skipWhitespace
  have htable' : reader.skipWhitespace.table.Ordinary := hskip.table ▸ htable
  have hleaves := hadvances.form reader.skipWhitespace htable'
  unfold readItems
  dsimp only
  split
  · exact hskip.fitsIn_spanFrom hplace
  · split
    · trivial
    · have hform := h.form reader.skipWhitespace htable' (hskip.inSource hplace)
      refine (hform.of_continues hskip).andThen ?_
      intro item mid hvalue
      rw [hvalue] at hleaves
      exact (h.items opening mid (hskip.trans hleaves.1) htable hplace).map _

omit h htable hplace hadvances in
/-- However many calls are allowed inside each other, the steps fail in the source text only. -/
theorem failsIn_upTo (stores : Stores) (count : Nat) : (upTo stores count).FailsIn := by
  -- by induction on the calls; what was read in between is gone on from by `Steps.advances_upTo`
  induction count with
  | zero =>
    exact ⟨fun _ _ _ => trivial, fun _ _ _ => trivial, fun _ _ _ => trivial,
      fun _ _ _ _ _ => trivial⟩
  | succ count ih =>
    have hadvances := advances_upTo stores count
    exact ⟨fun _ htable hplace => readForm_failsIn ih htable hplace hadvances,
      fun _ htable hplace => readNext_failsIn ih htable hplace hadvances,
      fun _ htable hplace => readAll_failsIn ih htable hplace hadvances,
      fun _ _ hcontinues htable hplace => readItems_failsIn ih hadvances hcontinues htable hplace⟩

end Steps

/-- Reading a form with an ordinary table fails in the source text only. -/
theorem Reader.readForm_failsIn (stores : Stores) {reader : Reader}
    (htable : reader.table.Ordinary) (hplace : reader.cursor.InSource) :
    (reader.readForm stores).FailsIn reader.cursor.source :=
  (Steps.failsIn_upTo stores reader.allowance).form reader htable hplace

end AliasReader
