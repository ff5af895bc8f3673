import AliasReader.Proofs.Reader.Allowance
import AliasReader.Proofs.Reader.Grounded
import AliasReader.Script.Session

/-!
# Scripts Form by Form

Running a script is taking its forms one after the other. A form is passed, with or without a
line, or it stops the run. Every form takes a character, so the steps that a run is allowed are
never used up, and a run is told by the forms that were passed and the one that stopped it.

## Main definitions

* `Session.takeForm`: what becomes of one form;
* `Session.Passes`: forms that are passed one after the other;
* `Session.Reachable`: the sessions that runs lead to.

## Main results

* `Session.Reachable.sound`: reachable sessions have ordinary tables, reachable symbol tables and a
  current namespace;
* `Session.run_eq_iff`: a run in terms of the passed forms and the one that stopped it.
-/

namespace AliasReader

/-- What becomes of a form of a script. -/
inductive FormStep where
  /-- The script goes on at a place. -/
  | passed (lines : List String) (session : Session) (cursor : Cursor)
  /-- The script ends. -/
  | stopped (ending : Ending) (session : Session)

/-- The session after a form. -/
def FormStep.session : FormStep → Session
  | passed _ session _ => session
  | stopped _ session => session

/-- A run behind lines that were emitted before. -/
def ScriptRun.behind (run : ScriptRun) (lines : List String) : ScriptRun :=
  { run with lines := lines ++ run.lines }

namespace Session

/-- How a script goes on after a reaction. -/
def Reaction.step (session : Session) (cursor : Cursor) : Reaction → FormStep
  | .emit line => .passed [line] session cursor
  | .executed session => .passed [] session cursor
  | .stopped failure session => .stopped (.failed failure) session
  | .dangling => .stopped .dangling session

/-- How a script goes on after the form at `start` was read. -/
def stepAfter (session : Session) (start : Nat) :
    Outcome (Option (Datum SymbolId)) → FormStep
  | .value none reader => .passed [] (session.afterReading reader) reader.cursor
  | .value (some datum) reader =>
      let session := session.afterReading reader
      (session.react (reader.cursor.spanFrom start) datum).step session reader.cursor
  | .failed failure reader => .stopped (.failed (.read failure)) (session.afterReading reader)
  | .dangling reader => .stopped .dangling (session.afterReading reader)
  | .exhausted => .stopped .exhausted session

/-- Take the next form of a script. -/
def takeForm (session : Session) (cursor : Cursor) : FormStep :=
  let reader := (session.reader cursor).skipWhitespace
  if reader.cursor.isAtEnd then .stopped .finished session
  else session.stepAfter reader.cursor.offset (reader.readForm session.stores)

theorem takeForm_of_end {session : Session} {cursor : Cursor}
    (hend : (session.reader cursor).skipWhitespace.cursor.isAtEnd = true) :
    session.takeForm cursor = .stopped .finished session :=
  if_pos hend

theorem takeForm_of_form {session : Session} {cursor : Cursor}
    (hend : (session.reader cursor).skipWhitespace.cursor.isAtEnd = false) :
    session.takeForm cursor =
      session.stepAfter (session.reader cursor).skipWhitespace.cursor.offset
        ((session.reader cursor).skipWhitespace.readForm session.stores) := by
  unfold takeForm
  dsimp only
  rw [hend, if_neg Bool.false_ne_true]

/-- A run takes one form and goes on from there. -/
theorem runForms_succ (count : Nat) (session : Session) (cursor : Cursor) :
    runForms (count + 1) session cursor =
      match session.takeForm cursor with
      | .passed lines mid place => (runForms count mid place).behind lines
      | .stopped ending after => ⟨[], ending, after⟩ := by
  have hskip : (session.reader cursor).skipWhitespace =
      session.reader (cursor.skipWhile Unicode.isWhitespace) := rfl
  rw [runForms]
  dsimp only
  cases hend : (cursor.skipWhile Unicode.isWhitespace).isAtEnd with
  | true =>
    rw [if_pos rfl, takeForm_of_end hend]
  | false =>
    rw [if_neg Bool.false_ne_true, takeForm_of_form hend, hskip]
    -- the two sides agree on whatever the form came to
    generalize (session.reader _).readForm session.stores = outcome
    cases outcome with
    | value result reader =>
      cases result with
      | none => rfl
      | some datum =>
        have hoffset : (session.reader (cursor.skipWhile Unicode.isWhitespace)).cursor.offset =
            (cursor.skipWhile Unicode.isWhitespace).offset := rfl
        rw [stepAfter, hoffset]
        dsimp only
        generalize (session.afterReading reader).react _ datum = reaction
        cases reaction <;> rfl
    | failed failure reader => rfl
    | dangling reader => rfl
    | exhausted => rfl

/-! ## Reachable sessions -/

/-- The sessions that runs lead to. -/
inductive Reachable : Session → Prop
  | start (config : SentinelConfig) : Reachable (start config)
  | run {session : Session} (source : String) :
      Reachable session → Reachable (session.run source).session

/-- A session reads with an ordinary table, holds a symbol table that was made by requests, and is
in a namespace of it. -/
structure Sound (session : Session) : Prop where
  /-- The table is ordinary. -/
  table : session.table.Ordinary
  /-- The symbol table was made by requests. -/
  host : session.host.Reachable
  /-- The current namespace exists. -/
  current : session.host.hasNamespace session.current = true

theorem sound_start (config : SentinelConfig) : (start config).Sound where
  table := (ReadTable.ordinary_standard config.case).installSentinel (fun _ h => by cases h) _ _
  host := SymbolTable.Reachable.empty.perform (.create (config.case.fold firstNamespace))
  current := rfl

/-- Declaring symbols is making requests. -/
theorem declare_eq_performAll (host : SymbolTable) (id : NamespaceId)
    (external internal : List String) :
    declare host id external internal =
      host.performAll (external.map (.internExternal id) ++ internal.map (.intern id)) := by
  rw [SymbolTable.performAll, List.foldl_append, List.foldl_map, List.foldl_map]
  rfl

/-- Reacting to a datum leaves the session that it found, or what a directive leaves of it. -/
theorem session_react (session : Session) (cursor : Cursor) (span : Span)
    (datum : Datum SymbolId) :
    ((session.react span datum).step session cursor).session = session ∨
      ∃ directive, ((session.react span datum).step session cursor).session =
        (session.execute span directive).2 := by
  unfold react
  split
  · exact Or.inl rfl
  · split
    · exact Or.inl rfl
    next directive _ =>
      refine Or.inr ⟨directive, ?_⟩
      split
      next heq =>
        rw [heq]
        rfl
      next heq =>
        rw [heq]
        rfl
    · split <;> exact Or.inl rfl

section Sound

variable {session : Session} (h : session.Sound)

include h

/-- The reader of a sound session is sound. -/
theorem Sound.reader (cursor : Cursor) : (session.reader cursor).Sound :=
  ⟨h.table, h.host, h.current⟩

theorem Sound.execute (span : Span) (directive : Directive) :
    (session.execute span directive).2.Sound := by
  cases directive with
  | define name external internal =>
    -- a namespace is made, if it can be, and then its symbols are
    have hcreate := h.host.perform (.create name)
    have hcurrent := SymbolTable.hasNamespace_performAll h.current [.create name]
    rw [SymbolTable.perform] at hcreate
    rw [SymbolTable.performAll, List.foldl_cons, List.foldl_nil, SymbolTable.perform] at hcurrent
    rw [Session.execute]
    split
    next heq =>
      rw [heq] at hcreate hcurrent
      exact ⟨h.table, hcreate, hcurrent⟩
    next heq =>
      rw [heq] at hcreate hcurrent
      rw [declare_eq_performAll]
      exact ⟨h.table, hcreate.performAll _, SymbolTable.hasNamespace_performAll hcurrent _⟩
  | enter name =>
    rw [Session.execute]
    split
    · exact h
    next current hrequire =>
      have hfind : session.host.find? (.named name) = some current := by
        unfold SymbolTable.require at hrequire
        split at hrequire
        next hfind =>
          cases hrequire
          exact hfind
        next => cases hrequire
      exact ⟨h.table, h.host, h.host.wellFormed.hasNamespace_of_find? hfind⟩
  | setAliases pairs =>
    rw [Session.execute]
    dsimp only
    split
    · exact h
    · exact ⟨h.table, h.host, h.current⟩

/-- Reading leaves a sound session, as it interns names only. -/
theorem Sound.afterReading {cursor : Cursor} {reader : Reader}
    (hreader : (session.reader cursor).Interned reader) : (session.afterReading reader).Sound :=
  ⟨h.table, hreader.reachable h.host, hreader.hasNamespace h.host h.current⟩

theorem Sound.react (cursor : Cursor) (span : Span) (datum : Datum SymbolId) :
    ((session.react span datum).step session cursor).session.Sound := by
  rcases session_react session cursor span datum with hsame | ⟨directive, hexecuted⟩
  · rw [hsame]
    exact h
  · rw [hexecuted]
    exact h.execute span directive

/-- A form leaves a sound session. -/
theorem Sound.takeForm (cursor : Cursor) : (session.takeForm cursor).session.Sound := by
  unfold Session.takeForm
  dsimp only
  split
  · exact h
  · have hread : ((session.reader cursor).skipWhitespace.readForm session.stores).Interned _ :=
      Reader.readForm_interned session.stores h.table
    generalize Reader.readForm session.stores _ = outcome at hread
    cases outcome with
    | value result reader =>
      cases result with
      | none => exact h.afterReading hread
      | some datum => exact (h.afterReading hread).react _ _ datum
    | failed failure reader => exact h.afterReading hread
    | dangling reader => exact h.afterReading hread
    | exhausted => exact h

theorem Sound.of_passed {cursor place : Cursor} {lines : List String} {mid : Session}
    (htake : session.takeForm cursor = .passed lines mid place) : mid.Sound := by
  have hmid := h.takeForm cursor
  rw [htake] at hmid
  exact hmid

theorem Sound.runForms (count : Nat) (cursor : Cursor) :
    (runForms count session cursor).session.Sound := by
  induction count generalizing session cursor with
  | zero => exact h
  | succ count ih =>
    have hstep := h.takeForm cursor
    rw [runForms_succ]
    split
    next htake => exact ih (h.of_passed htake) _
    next htake =>
      rw [htake] at hstep
      exact hstep

end Sound

/-- Runs lead to sound sessions. -/
theorem Reachable.sound {session : Session} (h : session.Reachable) : session.Sound := by
  induction h with
  | start config => exact sound_start config
  | run source _ ih => exact ih.runForms _ _

/-! ## How a directive fails -/

section Failing

variable {session after : Session} {span : Span} {failure : ScriptFailure}

/-- A directive fails because its name belongs to a namespace, because it names none, or because of
its aliases. Only in the first case it leaves more than it found: the name is noted. -/
theorem execute_eq_error {directive : Directive}
    (h : session.execute span directive = (.error failure, after)) :
    (∃ name owner, session.host.index.find? name = some owner ∧
      failure = .host (session.host.inUse name owner) span ∧
      after = { session with host := session.host.noteNames [name] }) ∨
    (∃ name, failure = .host (.unknown name) span ∧ after = session) ∨
    (∃ cause, failure = .aliases cause span ∧ after = session) := by
  rcases directive with ⟨name, external, internal⟩ | name | pairs
  · rw [execute] at h
    rcases hfind : session.host.index.find? name with _ | owner
    · rw [SymbolTable.create_of_free hfind] at h
      cases h
    · rw [SymbolTable.create_of_taken hfind] at h
      cases h
      exact Or.inl ⟨name, owner, hfind, rfl, rfl⟩
  · rw [execute, SymbolTable.require] at h
    rcases hfind : session.host.find? (.named name) with _ | id
    · rw [hfind] at h
      cases h
      exact Or.inr (Or.inl ⟨_, rfl, rfl⟩)
    · rw [hfind] at h
      cases h
  · rw [execute] at h
    dsimp only at h
    split at h
    next cause _ =>
      cases h
      exact Or.inr (Or.inr ⟨cause, rfl, rfl⟩)
    next => cases h

/-- A datum stops a script as a malformed directive, or as one that fails. -/
theorem react_eq_stopped {datum : Datum SymbolId}
    (h : session.react span datum = .stopped failure after) :
    (∃ keyword problem, failure = .directive keyword problem span ∧ after = session) ∨
      ∃ directive, session.execute span directive = (.error failure, after) := by
  unfold react at h
  split at h
  · cases h
  · split at h
    next keyword problem _ =>
      cases h
      exact Or.inl ⟨keyword, problem, rfl, rfl⟩
    next directive _ =>
      split at h
      next hexecute =>
        cases h
        exact Or.inr ⟨directive, hexecute⟩
      next => cases h
    · -- a datum that is no directive is emitted
      split at h <;> cases h

end Failing

/-! ## What a form takes -/

section TakeForm

variable {session mid : Session} {cursor place : Cursor} {lines : List String}

/-- A form is passed when it has a value, and the script goes on behind it. -/
theorem stepAfter_eq_passed {start : Nat} {outcome : Outcome (Option (Datum SymbolId))}
    (h : session.stepAfter start outcome = .passed lines mid place) :
    ∃ result after, outcome = .value result after ∧ place = after.cursor := by
  cases outcome with
  | value result after =>
    refine ⟨result, after, rfl, ?_⟩
    cases result with
    | none =>
      cases h
      rfl
    | some datum =>
      rw [stepAfter] at h
      generalize (session.afterReading after).react _ datum = reaction at h
      cases reaction with
      | emit line =>
        cases h
        rfl
      | executed session =>
        cases h
        rfl
      | stopped failure session => cases h
      | dangling => cases h
  | failed failure after => cases h
  | dangling after => cases h
  | exhausted => cases h

/-- A form stops a script when it cannot be read, when its datum is refused, when a handle names
nothing, and when reading is given up. -/
theorem stepAfter_eq_stopped {start : Nat} {outcome : Outcome (Option (Datum SymbolId))}
    {ending : Ending} {after : Session}
    (h : session.stepAfter start outcome = .stopped ending after) :
    (∃ failure reader, outcome = .failed failure reader ∧ ending = .failed (.read failure) ∧
      after = session.afterReading reader) ∨
    (∃ datum reader failure, outcome = .value (some datum) reader ∧ ending = .failed failure ∧
      (session.afterReading reader).react (reader.cursor.spanFrom start) datum =
        .stopped failure after) ∨
    (ending = .dangling ∧ ((∃ reader, outcome = .dangling reader) ∨
      ∃ datum reader, outcome = .value (some datum) reader ∧
        (session.afterReading reader).react (reader.cursor.spanFrom start) datum = .dangling)) ∨
    (outcome = .exhausted ∧ ending = .exhausted) := by
  cases outcome with
  | value result reader =>
    cases result with
    | none => cases h
    | some datum =>
      rw [stepAfter] at h
      cases hreact : (session.afterReading reader).react (reader.cursor.spanFrom start) datum with
      | emit line =>
        rw [hreact] at h
        cases h
      | executed last =>
        rw [hreact] at h
        cases h
      | stopped failure last =>
        rw [hreact] at h
        cases h
        exact Or.inr (Or.inl ⟨datum, reader, failure, rfl, rfl, hreact⟩)
      | dangling =>
        rw [hreact] at h
        cases h
        exact Or.inr (Or.inr (Or.inl ⟨rfl, Or.inr ⟨datum, reader, rfl, hreact⟩⟩))
  | failed failure reader =>
    cases h
    exact Or.inl ⟨failure, reader, rfl, rfl, rfl⟩
  | dangling reader =>
    cases h
    exact Or.inr (Or.inr (Or.inl ⟨rfl, Or.inl ⟨reader, rfl⟩⟩))
  | exhausted =>
    cases h
    exact Or.inr (Or.inr (Or.inr ⟨rfl, rfl⟩))

theorem isAtEnd_of_passed (h : session.takeForm cursor = .passed lines mid place) :
    (session.reader cursor).skipWhitespace.cursor.isAtEnd = false := by
  cases hend : (session.reader cursor).skipWhitespace.cursor.isAtEnd with
  | true =>
    rw [takeForm_of_end hend] at h
    cases h
  | false => rfl

/-- A form that is passed takes at least one character of the source text, and nothing is put in
front of the input. -/
theorem goesOn_of_passed (hsession : session.Sound)
    (h : session.takeForm cursor = .passed lines mid place) :
    place.source = cursor.source ∧ place.remaining <:+ cursor.remaining ∧
      place.remaining.length < cursor.remaining.length := by
  have hend := isAtEnd_of_passed h
  rw [takeForm_of_form hend] at h
  obtain ⟨result, after, hvalue, rfl⟩ := stepAfter_eq_passed h
  have htable : (session.reader cursor).skipWhitespace.table.Ordinary := hsession.table
  -- the form takes a character behind the white space, which was there to be taken
  have hform := Reader.readForm_leaves session.stores htable
  rw [hvalue, (session.reader cursor).skipWhitespace_skipWhitespace, hend] at hform
  obtain ⟨hcontinues, hused⟩ := hform
  have hskip := (session.reader cursor).continues_skipWhitespace
  exact ⟨hcontinues.source.trans hskip.source, hcontinues.suffix.trans hskip.suffix,
    Nat.lt_of_lt_of_le hused hskip.size_le⟩

/-- A run comes to its end only where no form is left. -/
theorem isAtEnd_of_finished {after : Session}
    (h : session.takeForm cursor = .stopped .finished after) :
    (session.reader cursor).skipWhitespace.cursor.isAtEnd = true ∧ after = session := by
  cases hend : (session.reader cursor).skipWhitespace.cursor.isAtEnd with
  | true =>
    rw [takeForm_of_end hend] at h
    cases h
    exact ⟨rfl, rfl⟩
  | false =>
    rw [takeForm_of_form hend] at h
    -- a form that was there stops a run in some other way
    rcases stepAfter_eq_stopped h with ⟨_, _, -, hending, -⟩ | ⟨_, _, _, -, hending, -⟩ |
      ⟨hending, -⟩ | ⟨-, hending⟩ <;> cases hending

/-- White space in front of a form does not matter. -/
theorem takeForm_congr {cursor' : Cursor}
    (h : cursor'.skipWhile Unicode.isWhitespace = cursor.skipWhile Unicode.isWhitespace) :
    session.takeForm cursor' = session.takeForm cursor := by
  have hskip : (session.reader cursor').skipWhitespace = (session.reader cursor).skipWhitespace :=
    congrArg session.reader h
  rw [takeForm, takeForm, hskip]

/-- A form fails when it cannot be read, or when its datum is refused. -/
theorem takeForm_eq_failed {failure : ScriptFailure} {after : Session}
    (h : session.takeForm cursor = .stopped (.failed failure) after) :
    (∃ cause reader, (session.reader cursor).skipWhitespace.readForm session.stores =
      .failed cause reader ∧ failure = .read cause ∧ after = session.afterReading reader) ∨
    ∃ datum reader, (session.reader cursor).skipWhitespace.readForm session.stores =
      .value (some datum) reader ∧
      (session.afterReading reader).react
        (reader.cursor.spanFrom (session.reader cursor).skipWhitespace.cursor.offset) datum =
          .stopped failure after := by
  rcases hend : (session.reader cursor).skipWhitespace.cursor.isAtEnd with _ | _
  · rw [takeForm_of_form hend] at h
    rcases stepAfter_eq_stopped h with ⟨cause, reader, hread, hending, hafter⟩ |
      ⟨datum, reader, _, hread, hending, hreact⟩ | ⟨hending, -⟩ | ⟨-, hending⟩
    · cases hending
      exact Or.inl ⟨cause, reader, hread, rfl, hafter⟩
    · cases hending
      exact Or.inr ⟨datum, reader, hread, hreact⟩
    · cases hending
    · cases hending
  · rw [takeForm_of_end hend] at h
    cases h

end TakeForm

/-! ## Runs as passed forms -/

/-- From a place on, forms are passed one after the other up to a later place, with the lines that
they emit. -/
inductive Passes : Session → Cursor → List String → Session → Cursor → Prop
  /-- No form is passed. -/
  | refl (session : Session) (cursor : Cursor) : Passes session cursor [] session cursor
  /-- One form is passed, and then further ones. -/
  | step {session mid last : Session} {cursor place stop : Cursor} {lines more : List String} :
      session.takeForm cursor = .passed lines mid place → Passes mid place more last stop →
      Passes session cursor (lines ++ more) last stop

section Passes

variable {session last : Session} {cursor stop : Cursor} {lines : List String}

theorem Passes.sound (h : Passes session cursor lines last stop) (hsession : session.Sound) :
    last.Sound := by
  induction h with
  | refl => exact hsession
  | step htake _ ih => exact ih (hsession.of_passed htake)

/-- Passing forms is going on in the source text. -/
theorem Passes.goesOn (h : Passes session cursor lines last stop) (hsession : session.Sound) :
    stop.source = cursor.source ∧ stop.remaining <:+ cursor.remaining := by
  induction h with
  | refl => exact ⟨rfl, List.suffix_refl _⟩
  | step htake _ ih =>
    obtain ⟨hsource, hsuffix, -⟩ := goesOn_of_passed hsession htake
    obtain ⟨hsource', hsuffix'⟩ := ih (hsession.of_passed htake)
    exact ⟨hsource'.trans hsource, hsuffix'.trans hsuffix⟩

/-- Forms that are passed one after the other are passed together. -/
theorem Passes.trans {final : Session} {place : Cursor} {more : List String}
    (h : Passes session cursor lines last stop) (h' : Passes last stop more final place) :
    Passes session cursor (lines ++ more) final place := by
  induction h with
  | refl => exact h'
  | step htake _ ih =>
    rw [List.append_assoc]
    exact .step htake (ih h')

/-- Forms are passed from behind white space as from in front of it. -/
theorem Passes.congr {cursor' : Cursor} (h : Passes session cursor lines last stop)
    (hskip : cursor'.skipWhile Unicode.isWhitespace = cursor.skipWhile Unicode.isWhitespace) :
    ∃ stop', Passes session cursor' lines last stop' ∧
      last.takeForm stop' = last.takeForm stop := by
  cases h with
  | refl => exact ⟨cursor', .refl _ _, takeForm_congr hskip⟩
  | step htake hmore => exact ⟨stop, .step ((takeForm_congr hskip).trans htake) hmore, rfl⟩

/-- The passed forms and the one that stopped the run tell what the run leaves, however many steps
it is allowed beyond the number of the characters. -/
theorem Passes.runForms_eq (h : Passes session cursor lines last stop) (hsession : session.Sound)
    {ending : Ending} {after : Session} (hstop : last.takeForm stop = .stopped ending after)
    {count : Nat} (hcount : cursor.remaining.length < count) :
    runForms count session cursor = ⟨lines, ending, after⟩ := by
  -- by induction on the forms, each of which leaves fewer characters than it found
  induction h generalizing count with
  | refl =>
    obtain ⟨count, rfl⟩ := Nat.exists_eq_succ_of_ne_zero (Nat.ne_zero_of_lt hcount)
    rw [runForms_succ, hstop]
  | step htake _ ih =>
    obtain ⟨count, rfl⟩ := Nat.exists_eq_succ_of_ne_zero (Nat.ne_zero_of_lt hcount)
    have hfewer := (goesOn_of_passed hsession htake).2.2
    rw [runForms_succ, htake]
    simp only
    rw [ih (hsession.of_passed htake) hstop (by omega)]
    rfl

/-- A run passes forms up to one that stops it. -/
theorem exists_passes_runForms (hsession : session.Sound) {count : Nat}
    (hcount : cursor.remaining.length < count) :
    ∃ last stop, Passes session cursor (runForms count session cursor).lines last stop ∧
      last.takeForm stop = .stopped (runForms count session cursor).ending
        (runForms count session cursor).session := by
  -- by induction on the allowed steps, which outnumber the remaining characters at each form
  induction count generalizing session cursor with
  | zero => exact absurd hcount (Nat.not_lt_zero _)
  | succ count ih =>
    rw [runForms_succ]
    split
    next lines mid place htake =>
      have hfewer := (goesOn_of_passed hsession htake).2.2
      obtain ⟨last, stop, hpasses, hstop⟩ :=
        @ih mid place (hsession.of_passed htake) (by omega)
      exact ⟨last, stop, .step htake hpasses, hstop⟩
    next ending after htake => exact ⟨session, cursor, .refl _ _, htake⟩

/-- A run is told by the passed forms and the one that stopped it. -/
theorem run_eq_iff (hsession : session.Sound) {source : String} {run : ScriptRun} :
    session.run source = run ↔
      ∃ last stop, Passes session (.ofString source) run.lines last stop ∧
        last.takeForm stop = .stopped run.ending run.session := by
  have hcount : (Cursor.ofString source).remaining.length < source.toList.length + 1 :=
    Nat.lt_succ_self _
  constructor
  · rintro rfl
    exact exists_passes_runForms hsession hcount
  · rintro ⟨last, stop, hpasses, hstop⟩
    exact hpasses.runForms_eq hsession hstop hcount

end Passes

end Session

end AliasReader
