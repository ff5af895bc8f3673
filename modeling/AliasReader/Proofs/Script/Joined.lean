import AliasReader.Proofs.Reader.Locality
import AliasReader.Proofs.Script.Stepwise

/-!
# Joined Scripts

A script may be run in parts. When a first script runs to its end, a second one that is run
afterwards does what it does behind the first one and a line break, with the places of failures
moved by the bytes in front of it. Reading a form is local, and a directive depends on the place of
its form only when it fails.

## Main definitions

* `Ending.shift`: an ending with the place of its failure moved;
* `FormStep.Local`: what becomes of a form of a part of a text, and of the whole text.

## Main results

* `Session.takeForm_local`: taking a form is local;
* `Session.Passes.within`: forms of a part are passed in the whole text;
* `Session.run_append`: the run of two scripts that are joined by a line break.
-/

namespace AliasReader

/-- The same ending with the place of a failure further on by `offset` bytes. -/
def Ending.shift (offset : Nat) : Ending → Ending
  | .failed failure => .failed (failure.shift offset)
  | ending => ending

namespace Session

/-! ## Places of failures -/

/-- The same reaction with the place of a failure further on by `offset` bytes. -/
def Reaction.shift (offset : Nat) : Reaction → Reaction
  | .stopped failure session => .stopped (failure.shift offset) session
  | reaction => reaction

/-- A directive depends on its place only when it fails. -/
theorem execute_shift (session : Session) (span : Span) (offset : Nat) (directive : Directive) :
    session.execute (span.shift offset) directive =
      ((session.execute span directive).1.mapError (·.shift offset),
        (session.execute span directive).2) := by
  cases directive with
  | define name external internal =>
    rw [execute, execute]
    split <;> rfl
  | enter name =>
    rw [execute, execute]
    split <;> rfl
  | setAliases pairs =>
    rw [execute, execute]
    dsimp only
    split <;> rfl

theorem react_shift (session : Session) (span : Span) (offset : Nat) (datum : Datum SymbolId) :
    session.react (span.shift offset) datum = (session.react span datum).shift offset := by
  unfold react
  split
  · rfl
  · split
    · rfl
    next directive _ =>
      rw [execute_shift]
      cases session.execute span directive with
      | mk result after => cases result <;> rfl
    · split <;> rfl

end Session

/-! ## Forms of a part of a text -/

/-- What becomes of a form of a part of a text, and of the form at the same place of the whole
text. -/
inductive FormStep.Local (front tail : List Char) : FormStep → FormStep → Prop
  /-- Both are passed with the same lines and the same session. -/
  | passed {lines : List String} {mid : Session} {part whole : Cursor} :
      part.Within front tail whole →
      FormStep.Local front tail (.passed lines mid part) (.passed lines mid whole)
  /-- Both stop the run alike, with the place of a failure moved by the bytes in front of the
  part. -/
  | stopped {ending : Ending} {after : Session} :
      FormStep.Local front tail (.stopped ending after)
        (.stopped (ending.shift (byteLength front)) after)
  /-- Reading reached the end of the part while there is text behind it. Before a line break the
  form of the part was not passed, and that of the whole text, if passed, took characters from
  behind the part. -/
  | overrun {part whole : FormStep} : tail ≠ [] →
      (tail.head? = some '\n' → ∀ lines mid place, part ≠ .passed lines mid place) →
      (∀ lines mid place, whole = .passed lines mid place →
        place.remaining.length < tail.length) →
      FormStep.Local front tail part whole

namespace Session

theorem Reaction.step_local {front tail : List Char} {part whole : Cursor}
    (h : part.Within front tail whole) (session : Session) (reaction : Reaction) :
    (reaction.step session part).Local front tail
      ((reaction.shift (byteLength front)).step session whole) := by
  cases reaction with
  | emit line => exact .passed h
  | executed after => exact .passed h
  | stopped failure after => exact .stopped
  | dangling => exact .stopped

section Within

variable {session : Session} (hsession : session.Sound) {front tail : List Char}
  {part whole : Cursor} (h : part.Within front tail whole)

include hsession h

/-- What becomes of a form of the part becomes of it in the whole text, unless reading reaches the
end of the part. -/
theorem takeForm_local (hend : (session.reader part).skipWhitespace.cursor.isAtEnd = false) :
    (session.takeForm part).Local front tail (session.takeForm whole) := by
  have hreader : (session.reader part).Within front tail (session.reader whole) :=
    ⟨h, rfl, rfl, rfl⟩
  have hskip := hreader.skipWhitespace hend
  obtain ⟨c, hpeek⟩ := Cursor.exists_peek?_of_isAtEnd hend
  have hend' : (session.reader whole).skipWhitespace.cursor.isAtEnd = false :=
    Reader.isAtEnd_eq_false (hskip.cursor.peek? hpeek)
  have hlocal := @Reader.readForm_local session.stores _ _ _ _ hskip hsession.table
    (by rwa [Reader.skipWhitespace_skipWhitespace])
  have hpart := @Reader.readForm_ne_exhausted session.stores
    (session.reader part).skipWhitespace hsession.table
  have hwhole := @Reader.readForm_ne_exhausted session.stores
    (session.reader whole).skipWhitespace hsession.table
  rw [takeForm_of_form hend, takeForm_of_form hend', hskip.cursor.offset]
  generalize (session.reader part).skipWhitespace.readForm session.stores = outcome
    at hlocal hpart
  generalize (session.reader whole).skipWhitespace.readForm session.stores = outcome'
    at hlocal hwhole
  cases hlocal with
  | @value result reader reader' hwithin =>
    have hafter : session.afterReading reader' = session.afterReading reader := by
      rw [afterReading, afterReading, hwithin.host, hwithin.current]
    cases result with
    | none =>
      rw [stepAfter, stepAfter, hafter]
      exact .passed hwithin.cursor
    | some datum =>
      rw [stepAfter, stepAfter, hafter, hwithin.cursor.spanFrom]
      rw [react_shift]
      exact Reaction.step_local hwithin.cursor _ _
  | @failed failure reader reader' hhost hcurrent =>
    have hafter : session.afterReading reader' = session.afterReading reader := by
      rw [afterReading, afterReading, hhost, hcurrent]
    rw [stepAfter, stepAfter, hafter]
    exact .stopped
  | @dangling reader reader' hhost hcurrent =>
    have hafter : session.afterReading reader' = session.afterReading reader := by
      rw [afterReading, afterReading, hhost, hcurrent]
    rw [stepAfter, stepAfter, hafter]
    exact .stopped
  | partExhausted => exact absurd rfl hpart
  | wholeExhausted => exact absurd rfl hwhole
  | overrun hoverrun =>
    refine .overrun hoverrun.ne_nil ?_ ?_
    · intro hhead lines mid place hpassed
      obtain ⟨result, after, hresult, -⟩ := stepAfter_eq_passed hpassed
      exact hoverrun.part_not_settled hhead result after hresult trivial
    · intro lines mid place hpassed
      obtain ⟨result, after, hresult, rfl⟩ := stepAfter_eq_passed hpassed
      exact hoverrun.whole_short result after hresult trivial

/-- A form that is passed in the part is passed in the whole text, when the part ends the text or
a line break stands behind it. -/
theorem takeForm_within (htail : tail = [] ∨ tail.head? = some '\n') {lines : List String}
    {mid : Session} {place : Cursor} (hpassed : session.takeForm part = .passed lines mid place) :
    ∃ place', place.Within front tail place' ∧
      session.takeForm whole = .passed lines mid place' := by
  have hlocal := takeForm_local hsession h (isAtEnd_of_passed hpassed)
  rw [hpassed] at hlocal
  generalize session.takeForm whole = step at hlocal
  cases hlocal with
  | passed hwithin => exact ⟨_, hwithin, rfl⟩
  | overrun hne hpart _ =>
    rcases htail with hnil | hhead
    · exact absurd hnil hne
    · exact absurd rfl (hpart hhead lines mid place)

/-- A form that stops the run of a part at the end of a text stops that of the whole text. -/
theorem takeForm_stopped_within (htail : tail = []) {ending : Ending} {after : Session}
    (hstopped : session.takeForm part = .stopped ending after) :
    session.takeForm whole = .stopped (ending.shift (byteLength front)) after := by
  cases hend : (session.reader part).skipWhitespace.cursor.isAtEnd with
  | true =>
    -- where the part has come to its end, so has the whole text
    have hreader : (session.reader part).Within front tail (session.reader whole) :=
      ⟨h, rfl, rfl, rfl⟩
    have hskip := hreader.skipWhitespace_of_nil htail
    have hend' : (session.reader whole).skipWhitespace.cursor.isAtEnd = true := by
      refine Cursor.isAtEnd_of_remaining ?_
      rw [hskip.cursor.remaining, Cursor.remaining_of_isAtEnd hend, htail, List.append_nil]
    rw [takeForm_of_end hend] at hstopped
    cases hstopped
    exact takeForm_of_end hend'
  | false =>
    have hlocal := takeForm_local hsession h hend
    rw [hstopped] at hlocal
    generalize session.takeForm whole = step at hlocal
    cases hlocal with
    | stopped => rfl
    | overrun hne _ _ => exact absurd htail hne

end Within

/-- Forms that are passed in the part are passed in the whole text. -/
theorem Passes.within {session last : Session} {part stop : Cursor} {lines : List String}
    (h : Passes session part lines last stop) (hsession : session.Sound)
    {front tail : List Char} (htail : tail = [] ∨ tail.head? = some '\n') {whole : Cursor}
    (hwithin : part.Within front tail whole) :
    ∃ stop', stop.Within front tail stop' ∧ Passes session whole lines last stop' := by
  -- by induction on the forms, each of which ends at the same place in both texts
  induction h generalizing whole with
  | refl => exact ⟨whole, hwithin, .refl _ _⟩
  | step htake _ ih =>
    obtain ⟨place', hplace, htake'⟩ := takeForm_within hsession hwithin htail htake
    obtain ⟨stop', hstop, hpasses⟩ := ih (hsession.of_passed htake) hplace
    exact ⟨stop', hstop, .step htake' hpasses⟩

/-- From where only white space and a line break stand in front of a last script, a cursor passes
over them as one at the start of that script. -/
theorem exists_behind_line {first second : String} {stop place : Cursor}
    (hplace : stop.Within [] ('\n' :: second.toList) place)
    (hsource : place.source = first ++ "\n" ++ second)
    (hwhite : stop.remaining.dropWhile Unicode.isWhitespace = []) :
    ∃ behind, (Cursor.ofString second).Within (first.toList ++ ['\n']) [] behind ∧
      place.skipWhile Unicode.isWhitespace = behind.skipWhile Unicode.isWhitespace := by
  have hbehind : (Cursor.ofString second).Within (first.toList ++ ['\n']) []
      (place.drop (stop.remaining.length + 1)) := by
    refine Cursor.within_ofString ?_ ?_
    · rw [Cursor.source_drop, hsource]
      simp
    · rw [Cursor.remaining_drop, hplace.remaining, List.drop_append]
      simp
  refine ⟨_, hbehind, Cursor.eq_of_source_of_remaining ?_ ?_⟩
  · rw [Cursor.source_skipWhile, Cursor.source_skipWhile, Cursor.source_drop]
  · have hline : Unicode.isWhitespace '\n' = true := by decide
    rw [Cursor.remaining_skipWhile, Cursor.remaining_skipWhile, hplace.remaining,
      hbehind.remaining, List.dropWhile_append, hwhite, List.isEmpty_nil, if_pos rfl,
      List.dropWhile_cons_of_pos hline, List.append_nil, Cursor.remaining_ofString]

/-- When a first script runs to its end, running a second one afterwards is running both, joined by
a line break: with the same lines and the same session in the end, and with the same failure, moved
by the bytes of the first script and the line break. -/
theorem run_append {session : Session} (hsession : session.Reachable) {first second : String}
    (hfinished : (session.run first).ending = .finished) :
    let one := session.run first
    let two := one.session.run second
    session.run (first ++ "\n" ++ second) =
      ⟨one.lines ++ two.lines, two.ending.shift (byteLength first.toList + 1), two.session⟩ := by
  intro one two
  have hsound := hsession.sound
  obtain ⟨mid, stop, hfirst, hstop⟩ := (run_eq_iff hsound).1 (@rfl _ one)
  rw [show one.ending = .finished from hfinished] at hstop
  obtain ⟨hend, hmid⟩ := isAtEnd_of_finished hstop
  rw [← hmid] at hfirst
  have hone := hfirst.sound hsound
  obtain ⟨last, stop₂, hsecond, hstop₂⟩ := (run_eq_iff hone).1 (@rfl _ two)
  -- the forms of the first script are passed in front of the line break
  have hjoined : (first ++ "\n" ++ second).toList = first.toList ++ '\n' :: second.toList := by
    simp
  have hwithin : (Cursor.ofString first).Within [] ('\n' :: second.toList)
      (.ofString (first ++ "\n" ++ second)) :=
    Cursor.within_ofString (by rw [Cursor.source_ofString, hjoined, List.nil_append]) hjoined
  obtain ⟨place, hplace, hpassed⟩ := hfirst.within hsound (Or.inr rfl) hwithin
  -- behind them only white space is left of the first script
  have hwhite : stop.remaining.dropWhile Unicode.isWhitespace = [] := by
    rw [← Cursor.remaining_skipWhile]
    exact Cursor.remaining_of_isAtEnd hend
  have hsource := (hpassed.goesOn hsound).1.trans (Cursor.source_ofString _)
  obtain ⟨behind, hbehind, hskip⟩ := exists_behind_line hplace hsource hwhite
  -- the forms of the second script are passed behind the line break
  obtain ⟨stop', hstop', hpassed₂⟩ := hsecond.within hone (Or.inl rfl) hbehind
  have hstopped := takeForm_stopped_within (hsecond.sound hone) hstop' rfl hstop₂
  obtain ⟨final, hpassed₂, hfinal⟩ := hpassed₂.congr hskip
  refine (run_eq_iff hsound).2 ⟨last, final, hpassed.trans hpassed₂, ?_⟩
  rw [hfinal, hstopped, byteLength_append]
  rfl

/-- A comment that ends with the first script ends at the line break, and the second script fails
at the place behind both. -/
theorem run_append_comment :
    let session := start ⟨'$', .upcase⟩
    let joined := session.run ("a ;x" ++ "\n" ++ "(b")
    session.Reachable ∧ (session.run "a ;x").ending = .finished ∧
      joined.lines = ["USER::A"] ∧
      joined.ending = .failed (.read (.unterminatedList ⟨5, 7⟩)) := by
  intro session joined
  have hsession : session.Reachable := .start _
  have hfinished : (session.run "a ;x").ending = .finished := by decide +kernel
  have hjoined : joined = _ := @run_append session hsession "a ;x" "(b" hfinished
  rw [hjoined]
  exact ⟨hsession, hfinished, by decide +kernel, by decide +kernel⟩

end Session

end AliasReader
