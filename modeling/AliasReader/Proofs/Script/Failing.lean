import Mathlib.Data.List.TakeWhile
import AliasReader.Proofs.Namespace.Exports
import AliasReader.Proofs.Script.Joined

/-!
# Failing Forms

A form that fails stops its script, and whatever it did before is not undone. It has done little:
reading interns plain tokens, and a directive is checked as a whole before it changes anything. So
a script that fails leaves what the part in front of the failing form leaves, and further internal
symbols of the current namespace.

## Main definitions

* `Session.GainsSymbols`: a later session that has further internal symbols of the current
  namespace and is otherwise the same.

## Main results

* `Session.takeForm_failed`: what a failing form leaves;
* `Session.Passes.excerpt`: forms that were passed are passed without the text behind them;
* `Session.run_failed`: what a failing script leaves.
-/

namespace AliasReader

namespace Session

/-- A later session has further internal symbols of the current namespace. Everything else is as
it was: the namespaces and what they are called, their external symbols, the aliases, and the
current namespace. -/
structure GainsSymbols (before after : Session) : Prop where
  /-- Only symbols were added to the symbol table. -/
  host : SymbolTable.GainsInternal before.current before.host after.host
  /-- The aliases are the same. -/
  registry : after.registry = before.registry
  /-- The current namespace is the same. -/
  current : after.current = before.current
  /-- The read table is the same. -/
  table : after.table = before.table
  /-- The settings are the same. -/
  config : after.config = before.config

theorem GainsSymbols.refl (session : Session) : session.GainsSymbols session :=
  ⟨SymbolTable.gainsInternal_noteNames _ _ [], rfl, rfl, rfl, rfl⟩

theorem GainsSymbols.trans {first second third : Session} (h : first.GainsSymbols second)
    (h' : second.GainsSymbols third) : first.GainsSymbols third := by
  have hhost := h'.host
  rw [h.current] at hhost
  exact ⟨h.host.trans hhost, h'.registry.trans h.registry, h'.current.trans h.current,
    h'.table.trans h.table, h'.config.trans h.config⟩

/-! ## What a failing form leaves -/

/-- A datum that stops a script has done nothing, but the name of a namespace that cannot be defined
is noted. -/
theorem react_stopped {session after : Session} {span : Span} {datum : Datum SymbolId}
    {failure : ScriptFailure} (h : session.react span datum = .stopped failure after) :
    session.GainsSymbols after := by
  rcases react_eq_stopped h with ⟨_, _, -, rfl⟩ | ⟨directive, hexecute⟩
  · exact .refl after
  · rcases execute_eq_error hexecute with ⟨name, _, -, -, rfl⟩ | ⟨_, -, rfl⟩ | ⟨_, -, rfl⟩
    · -- the name was noted before it was found to be taken
      exact ⟨SymbolTable.gainsInternal_noteNames _ _ [name], rfl, rfl, rfl, rfl⟩
    · exact .refl after
    · exact .refl after

section Failing

variable {session : Session} (hsession : session.Sound)

include hsession

/-- Reading a form makes symbols at most. -/
theorem gainsSymbols_afterReading {cursor : Cursor} {reader : Reader}
    (hreader : (session.reader cursor).Interned reader) :
    session.GainsSymbols (session.afterReading reader) := by
  -- reading keeps the aliases and the settings of the session
  exact ⟨hreader.gainsInternal hsession.host, rfl, hreader.current, rfl, rfl⟩

/-- A form that fails makes symbols at most. -/
theorem takeForm_failed {cursor : Cursor} {failure : ScriptFailure} {after : Session}
    (h : session.takeForm cursor = .stopped (.failed failure) after) :
    session.GainsSymbols after := by
  have hread : ((session.reader cursor).skipWhitespace.readForm session.stores).Interned _ :=
    Reader.readForm_interned session.stores hsession.table
  rcases takeForm_eq_failed h with ⟨_, reader, hfailed, -, rfl⟩ | ⟨datum, reader, hvalue, hreact⟩
  · -- the form cannot be read
    rw [hfailed] at hread
    exact gainsSymbols_afterReading hsession hread
  · -- the form was read, and its datum is refused
    rw [hvalue] at hread
    exact (gainsSymbols_afterReading hsession hread).trans (react_stopped hreact)

/-! ## The part in front of the failing form -/

/-- A form that is passed in front of the text behind a part is passed in the part alone. -/
theorem takeForm_excerpt {tail : List Char} {part whole place' : Cursor} {lines : List String}
    {mid : Session} (hwithin : part.Within [] tail whole)
    (htake : session.takeForm whole = .passed lines mid place')
    (hplace : tail.length ≤ place'.remaining.length) :
    ∃ place, place.Within [] tail place' ∧ session.takeForm part = .passed lines mid place := by
  have hend : (session.reader part).skipWhitespace.cursor.isAtEnd = false := by
    by_contra hend
    rw [Bool.not_eq_false] at hend
    -- from the end of the part, the form would take characters from behind it
    have hreader : (session.reader part).Within [] tail (session.reader whole) :=
      ⟨hwithin, rfl, rfl, rfl⟩
    have hsize := hreader.size_skipWhitespace_le hend
    have hskip : (whole.skipWhile Unicode.isWhitespace).skipWhile Unicode.isWhitespace =
        whole.skipWhile Unicode.isWhitespace :=
      Cursor.skipWhile_eq_self fun _ hc => Cursor.eq_false_of_peek?_skipWhile hc
    have hused := (goesOn_of_passed hsession ((takeForm_congr hskip).trans htake)).2.2
    exact absurd (Nat.lt_of_lt_of_le hused hsize) (Nat.not_lt.2 hplace)
  have hlocal := takeForm_local hsession hwithin hend
  rw [htake] at hlocal
  generalize session.takeForm part = step at hlocal
  cases hlocal with
  | passed hplaceWithin => exact ⟨_, hplaceWithin, rfl⟩
  | overrun _ _ hshort => exact absurd (hshort _ _ _ rfl) (Nat.not_lt.2 hplace)

end Failing

/-- Forms that were passed are passed without the text behind them. -/
theorem Passes.excerpt {session last : Session} {whole stop' : Cursor} {lines : List String}
    (h : Passes session whole lines last stop') (hsession : session.Sound) {tail : List Char}
    (htail : tail <:+ stop'.remaining) {part : Cursor} (hwithin : part.Within [] tail whole) :
    ∃ stop, stop.Within [] tail stop' ∧ Passes session part lines last stop := by
  -- by induction on the forms, none of which reaches the text behind
  induction h generalizing part with
  | refl => exact ⟨part, hwithin, .refl _ _⟩
  | step htake hmore ih =>
    have hmid := hsession.of_passed htake
    have hlength := (htail.trans (hmore.goesOn hmid).2).length_le
    obtain ⟨place, hplace, htake'⟩ := takeForm_excerpt hsession hwithin htake hlength
    obtain ⟨stop, hstop, hpasses⟩ := ih hmid htail hplace
    exact ⟨stop, hstop, .step htake' hpasses⟩

/-- When a script fails, the part in front of the form at which it failed runs to its end, with
the same lines. The failing script leaves what that part leaves, and at most further internal
symbols of the namespace that was the current one. -/
theorem run_failed {session : Session} (hsession : session.Reachable) {source : String}
    {failure : ScriptFailure} (hfailed : (session.run source).ending = .failed failure) :
    let failed := session.run source
    ∃ before mid place,
      Passes session (.ofString source) failed.lines mid place ∧
      mid.takeForm place = .stopped (.failed failure) failed.session ∧
      source.toList = before.toList ++ (place.skipWhile Unicode.isWhitespace).remaining ∧
      session.run before = ⟨failed.lines, .finished, mid⟩ ∧
      mid.GainsSymbols failed.session := by
  intro failed
  have hsound := hsession.sound
  obtain ⟨mid, place, hpasses, hstop⟩ := (run_eq_iff hsound).1 (@rfl _ failed)
  rw [show failed.ending = .failed failure from hfailed] at hstop
  have hmid := hpasses.sound hsound
  -- the failing form starts behind the white space at the place
  have htail : (place.skipWhile Unicode.isWhitespace).remaining <:+ place.remaining := by
    rw [Cursor.remaining_skipWhile]
    exact List.dropWhile_suffix _
  obtain ⟨before, hbefore⟩ := htail.trans (hpasses.goesOn hsound).2
  rw [Cursor.remaining_ofString] at hbefore
  have hsource : source.toList = (String.ofList before).toList ++
      (place.skipWhile Unicode.isWhitespace).remaining := by
    rw [String.toList_ofList, hbefore]
  have hwithin : (Cursor.ofString (String.ofList before)).Within []
      (place.skipWhile Unicode.isWhitespace).remaining (.ofString source) :=
    Cursor.within_ofString (by rw [Cursor.source_ofString, hsource, List.nil_append]) hsource
  obtain ⟨stop, hstopWithin, hpassed⟩ := hpasses.excerpt hsound htail hwithin
  -- only white space is left of the part behind its forms
  have hend : (mid.reader stop).skipWhitespace.cursor.isAtEnd = true := by
    have hsplit :=
      List.takeWhile_append_dropWhile (p := Unicode.isWhitespace) (l := place.remaining)
    have hremaining := hstopWithin.remaining
    rw [Cursor.remaining_skipWhile] at hremaining
    have hwhite : place.remaining.takeWhile Unicode.isWhitespace = stop.remaining :=
      List.append_cancel_right (hsplit.trans hremaining)
    refine Cursor.isAtEnd_of_remaining ?_
    change (stop.skipWhile Unicode.isWhitespace).remaining = []
    rw [Cursor.remaining_skipWhile, ← hwhite, List.dropWhile_eq_nil_iff]
    exact fun c hc => List.mem_takeWhile_imp hc
  exact ⟨String.ofList before, mid, place, hpasses, hstop, hsource,
    (run_eq_iff hsound).2 ⟨mid, stop, hpassed, takeForm_of_end hend⟩, takeForm_failed hmid hstop⟩

/-- A directive that names no namespace leaves the two symbols of its form. -/
theorem run_failed_unknownNamespace :
    let session := start ⟨'$', .upcase⟩
    let failed := session.run "a (in-namespace b)"
    session.Reachable ∧ failed.ending = .failed (.host (.unknown "B") ⟨2, 18⟩) ∧
      failed.session.host.symbols.map SymbolEntry.name = ["A", "IN-NAMESPACE", "B"] ∧
      ∃ before mid, session.run before = ⟨["USER::A"], .finished, mid⟩ ∧
        mid.GainsSymbols failed.session := by
  intro session failed
  have hsession : session.Reachable := .start _
  have hfailed : failed.ending = .failed (.host (.unknown "B") ⟨2, 18⟩) := by
    decide +kernel
  obtain ⟨before, mid, _, _, _, _, hbefore, hgains⟩ := run_failed hsession hfailed
  have hlines : (session.run "a (in-namespace b)").lines = ["USER::A"] := by decide +kernel
  rw [hlines] at hbefore
  exact ⟨hsession, hfailed, by decide +kernel, before, mid, hbefore, hgains⟩

end Session

end AliasReader
