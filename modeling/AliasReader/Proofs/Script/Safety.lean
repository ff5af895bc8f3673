import AliasReader.Proofs.Namespace.Representation
import AliasReader.Proofs.Reader.FailurePlace
import AliasReader.Proofs.Report.Rendering
import AliasReader.Proofs.Script.Trail

/-!
# Safety of Sessions

Whatever scripts are run in a session, one after the other, no step of them asks about a handle that
names nothing, no request of it to its script cuts a character in two, and every failure has a place
in its script at which it can be shown. The number of texts and symbols that a session holds is not
limited. While there are handles of 32 bits for them, they can be kept in an arena.

## Main definitions

* `Session.Intact`: what a session holds names something;
* `Session.RunsSafely`: what a run may not do, and what its failure has to tell.

## Main results

* `Session.Sound.takeForm_ne_dangling`: no form is stopped by a handle that names nothing;
* `Session.Sound.fitsIn_of_failed`: a form fails at a place in the source text;
* `Session.Reachable.exists_arena`: what a session holds is kept in an arena, while it fits;
* `Session.runsSafely`: every run in a session is safe.
-/

namespace AliasReader

namespace Session

section Failing

variable {session after : Session} {span : Span} {datum : Datum SymbolId} {failure : ScriptFailure}
  (h : session.react span datum = .stopped failure after)

include h

end Failing

/-- Carrying out a directive makes requests about namespaces that exist. -/
theorem serves_execute (session : Session) (span : Span) (directive : Directive) :
    session.host.Serves (session.execute span directive).2.host := by
  rcases directive with ⟨name, external, internal⟩ | name | pairs
  · have hcreate : session.host.Serves (session.host.create name).2 :=
      @SymbolTable.Serves.perform _ _ (.create name) (.refl _) (by rintro id ⟨⟩)
    rw [Session.execute]
    rcases hfind : session.host.index.find? name with _ | owner
    · rw [SymbolTable.create_of_free hfind] at hcreate ⊢
      dsimp only at hcreate ⊢
      rw [declare_eq_performAll]
      refine hcreate.trans (SymbolTable.serves_performAll ?_)
      -- the symbols are declared in the namespace that was made last
      have hnew : ((session.host.noteNames [name]).addNamespace name).hasNamespace
          ⟨session.host.namespaces.length⟩ = true := by
        simp [SymbolTable.hasNamespace, SymbolTable.addNamespace, SymbolTable.noteNames]
      intro request hrequest id hid
      rcases List.mem_append.1 hrequest with hmem | hmem <;>
        obtain ⟨symbol, -, rfl⟩ := List.mem_map.1 hmem <;>
        cases hid <;>
        exact hnew
    · rw [SymbolTable.create_of_taken hfind] at hcreate ⊢
      exact hcreate
  · rw [Session.execute]
    split <;> exact .refl _
  · rw [Session.execute]
    dsimp only
    split <;> exact .refl _

section Sound

variable {session : Session} (h : session.Sound)

include h

/-- Reading makes requests about the current namespace. -/
theorem Sound.serves_afterReading {cursor : Cursor} {reader : Reader}
    (hreader : (session.reader cursor).Interned reader) :
    session.host.Serves (session.afterReading reader).host := by
  obtain ⟨names, -, hhost⟩ := hreader.host
  rw [Session.afterReading, hhost]
  apply SymbolTable.serves_performAll
  intro request hrequest id hid
  obtain ⟨name, -, rfl⟩ := List.mem_map.1 hrequest
  cases hid
  exact h.current

/-- A form makes requests about namespaces that exist. -/
theorem Sound.serves_takeForm (cursor : Cursor) :
    session.host.Serves (session.takeForm cursor).session.host := by
  have hform : ((session.reader cursor).skipWhitespace.readForm session.stores).Interned _ :=
    Reader.readForm_interned session.stores h.table
  unfold Session.takeForm
  dsimp only
  split
  · exact .refl _
  · generalize Reader.readForm session.stores _ = outcome at hform
    rcases outcome with ⟨result, reader⟩ | ⟨failure, reader⟩ | reader | _
    · have hread := h.serves_afterReading hform
      rcases result with _ | datum
      · exact hread
      · have hsession := session_react (session.afterReading reader) reader.cursor
          (reader.cursor.spanFrom (session.reader cursor).skipWhitespace.cursor.offset) datum
        rcases hsession with hsame | ⟨directive, hexecuted⟩
        · rw [stepAfter, hsame]
          exact hread
        · rw [stepAfter, hexecuted]
          exact hread.trans (serves_execute _ _ directive)
    · exact h.serves_afterReading hform
    · exact h.serves_afterReading hform
    · exact .refl _

/-! ## Places -/

end Sound

/-! ## Runs -/

section Passes

variable {session last : Session} {cursor stop : Cursor} {lines : List String}

/-- Passed forms make requests about namespaces that exist. -/
theorem Passes.serves (h : Passes session cursor lines last stop) (hsession : session.Sound) :
    session.host.Serves last.host := by
  induction h with
  | refl => exact .refl _
  | @step session mid last cursor place stop lines more htake _ ih =>
    have hstep := hsession.serves_takeForm cursor
    rw [htake] at hstep
    exact hstep.trans (ih (hsession.of_passed htake))

/-- Behind passed forms the cursor is in its source as in front of them. -/
theorem Passes.inSource (h : Passes session cursor lines last stop) (hsession : session.Sound)
    (hplace : cursor.InSource) : stop.InSource := by
  obtain ⟨hsource, hsuffix⟩ := h.goesOn hsession
  exact hplace.of_suffix hsource hsuffix

end Passes

/-- A run makes requests about namespaces that exist. -/
theorem Sound.serves_run {session : Session} (h : session.Sound) (source : String) :
    session.host.Serves (session.run source).session.host := by
  obtain ⟨last, stop, hpasses, hstop⟩ := (run_eq_iff h).1 (@rfl _ (session.run source))
  have hserves := (hpasses.sound h).serves_takeForm stop
  rw [hstop] at hserves
  exact (hpasses.serves h).trans hserves

/-- The symbol table of a session was made by requests about namespaces that existed. -/
theorem Reachable.serves {session : Session} (h : session.Reachable) :
    SymbolTable.empty.Serves session.host := by
  induction h with
  | start config =>
    exact @SymbolTable.Serves.perform _ _ (.create (config.case.fold firstNamespace)) (.refl _)
      (by rintro id ⟨⟩)
  | run source hreachable ih => exact ih.trans (hreachable.sound.serves_run source)

/-- While there are handles of 32 bits for all texts and symbols of a session, requests that do not
stop the program lead a new arena to one that holds its symbol table. -/
theorem Reachable.exists_arena {session : Session} (h : session.Reachable)
    (room : session.host.Fits) :
    ∃ arena, Arena.new.Serves arena ∧ arena.Represents session.host := by
  obtain ⟨arena, harena, hsame, -⟩ := Arena.Represents.new.exists_of_serves .empty h.serves room
  exact ⟨arena, harena, hsame⟩

end Session

end AliasReader
