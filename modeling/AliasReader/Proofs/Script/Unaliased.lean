import AliasReader.Proofs.Reader.Delegation
import AliasReader.Proofs.Reader.Standard
import AliasReader.Proofs.Script.WellFormed

/-!
# Sessions Without Aliases

Under the policy `invert` no alias can be given, so the sentinel of a session only ever delegates.
Such a session does what a session with the plain standard table does, form by form and hence run by
run: the two read the same data, and nothing but the case policy of the table plays a part in what
becomes of them.

## Main definitions

* `Session.withoutSentinel`: the session with the standard table in place of its own one;
* `Session.after` and `Session.transcript`: what runs of several sources leave and what they show;
* `Session.StaysWellFormed`: what holds in a session whatever is run in it.

## Main results

* `Session.WellFormed.takeForm_withoutSentinel` and `Session.WellFormed.run_withoutSentinel`: the
  sentinel makes no difference to a form and to a run;
* `Session.staysWellFormed`: every session stays well-formed, and under the policy `invert` it is as
  good as one without a sentinel.
-/

namespace AliasReader

/-! ## Failures with the standard table -/

/-- No fault in the standard syntax is that of a reference. -/
theorem fault_ne_reference (stop : Nat) (lexemes : List PlacedLexeme) (opened : List Opened)
    (trigger : Char) (span : Span) (failure : ReferenceFailure) :
    fault stop lexemes opened ≠ some (.reference trigger span failure) := by
  fun_induction fault stop lexemes opened <;> simp_all

/-- With the standard table no form fails because of a reference. -/
theorem Reader.IsStandard.readForm_ne_reference {policy : CasePolicy} {reader : Reader}
    (hreader : reader.IsStandard policy) (stores : Stores) (trigger : Char) (span : Span)
    (failure : ReferenceFailure) (after : Reader) :
    reader.readForm stores ≠ .failed (.reference trigger span failure) after := by
  intro hread
  have hmeets := (Steps.reads_upTo stores policy reader.allowance).form reader hreader
  unfold readForm at hread
  rw [hread] at hmeets
  -- outside of lists the failure would be the fault in the remaining lexemes
  exact fault_ne_reference _ _ _ _ _ _ (hmeets [] fun hlist => hlist.elim)

/-! ## Sessions with the standard table -/

/-- What becomes of a form, with the session changed. -/
def FormStep.map (change : Session → Session) : FormStep → FormStep
  | passed lines session cursor => passed lines (change session) cursor
  | stopped ending session => stopped ending (change session)

/-- What a run leaves, with the session changed. -/
def ScriptRun.map (change : Session → Session) (run : ScriptRun) : ScriptRun :=
  { run with session := change run.session }

namespace ScriptRun

variable (change : Session → Session) (run : ScriptRun)

@[simp]
theorem lines_map : (run.map change).lines = run.lines := rfl

@[simp]
theorem ending_map : (run.map change).ending = run.ending := rfl

@[simp]
theorem session_map : (run.map change).session = change run.session := rfl

end ScriptRun

namespace Session

/-- What becomes of a datum, with the session changed. -/
def Reaction.map (change : Session → Session) : Reaction → Reaction
  | .emit line => .emit line
  | .executed session => .executed (change session)
  | .stopped failure session => .stopped failure (change session)
  | .dangling => .dangling

/-- The session with the standard table, under its policy, in place of the one with the sentinel. -/
def withoutSentinel (session : Session) : Session :=
  { session with table := ReadTable.standard.withCase session.config.case }

section Case

variable {session : Session} (hcase : session.table.case = session.config.case)

include hcase

/-- A directive is carried out alike with the standard table. -/
theorem execute_withoutSentinel (span : Span) (directive : Directive) :
    session.withoutSentinel.execute span directive =
      ((session.execute span directive).1, (session.execute span directive).2.withoutSentinel) := by
  have htable : session.withoutSentinel.table.case = session.table.case := hcase.symm
  cases directive with
  | define name external internal =>
    rw [execute, execute]
    have hhost : session.withoutSentinel.host = session.host := rfl
    rw [hhost]
    rcases session.host.create name with ⟨_ | id, host⟩ <;> rfl
  | enter name =>
    rw [execute, execute]
    have hhost : session.withoutSentinel.host = session.host := rfl
    rw [hhost]
    cases session.host.require (.named name) <;> rfl
  | setAliases pairs =>
    rw [execute, execute, htable]
    have hregistry : session.withoutSentinel.registry = session.registry := rfl
    have hcurrent : session.withoutSentinel.current = session.current := rfl
    rw [hregistry, hcurrent]
    dsimp only
    generalize session.registry.register session.current _ _ = registered
    cases registered <;> rfl

theorem react_withoutSentinel (span : Span) (datum : Datum SymbolId) :
    session.withoutSentinel.react span datum =
      (session.react span datum).map withoutSentinel := by
  have htable : session.withoutSentinel.table.case = session.table.case := hcase.symm
  have hhost : session.withoutSentinel.host = session.host := rfl
  unfold react
  rw [htable, hhost]
  cases session.host.spell? datum with
  | none => rfl
  | some spelled =>
    dsimp only
    rcases Directive.ofDatum? session.table.case spelled with _ | ⟨keyword, _ | directive⟩
    · dsimp only
      cases session.host.show? datum <;> rfl
    · rfl
    · dsimp only
      rw [execute_withoutSentinel hcase]
      rcases session.execute span directive with ⟨_ | _, after⟩ <;> rfl

/-- What becomes of a form depends on the outcome of reading it, and not on the table that the
reader is left with. -/
theorem stepAfter_withoutSentinel (start : Nat) {first second : Outcome (Option (Datum SymbolId))}
    (hagrees : first.Agrees second) :
    session.withoutSentinel.stepAfter start second =
      (session.stepAfter start first).map withoutSentinel := by
  obtain ⟨-, -, hsame⟩ := hagrees
  -- behind a form the table of the reader is dropped, so both may as well have the same one
  have hset : ∀ (other : Session) (outcome : Outcome (Option (Datum SymbolId))),
      other.stepAfter start (outcome.setTable session.table) = other.stepAfter start outcome := by
    intro other outcome
    cases outcome with
    | value result reader => cases result <;> rfl
    | _ => rfl
  rw [← hset _ second, ← hsame, hset]
  cases first with
  | value result reader =>
    cases result with
    | none => rfl
    | some datum =>
      have hreact := @react_withoutSentinel (session.afterReading reader) hcase
        (reader.cursor.spanFrom start) datum
      have hafter : session.withoutSentinel.afterReading reader =
          (session.afterReading reader).withoutSentinel := rfl
      rw [stepAfter, stepAfter, hafter, hreact]
      generalize (session.afterReading reader).react _ datum = reaction
      cases reaction <;> rfl
  | _ => rfl

end Case

section Invert

variable {config : SentinelConfig} {session : Session} (h : session.WellFormed config)
  (hinvert : config.case = .invert)

include h hinvert

/-- A form is read alike with the standard table. -/
theorem WellFormed.readForm_agrees (cursor : Cursor) :
    ((session.reader cursor).skipWhitespace.readForm session.stores).Agrees
      ((session.withoutSentinel.reader cursor).skipWhitespace.readForm session.stores) := by
  have hunaliased : (session.stores store).hasAliases session.current = false :=
    h.unaliased hinvert session.current
  have hnone : ∀ other ∈ (none : Option ReadTable), ReadTable.Ordinary other := by rintro _ ⟨⟩
  have hstandard := ReadTable.ordinary_standard config.case
  have hlike := ReadTable.readsLike_installSentinel hunaliased hstandard hnone config.trigger
  have hordinary := hstandard.installSentinel hnone config.trigger store
  have hplain : (session.withoutSentinel.reader cursor).skipWhitespace =
      { (session.reader cursor).skipWhitespace with
        table := ReadTable.standard.withCase config.case } := by
    rw [← h.settings]
    rfl
  have htable : (session.reader cursor).skipWhitespace.table =
      ReadTable.standard.installConfigured config store := h.table
  rw [hplain]
  exact (Reader.agrees_of_readsLike (htable ▸ hlike) (htable ▸ hordinary) hstandard).1

/-- The same becomes of a form with the standard table. -/
theorem WellFormed.takeForm_withoutSentinel (cursor : Cursor) :
    session.withoutSentinel.takeForm cursor =
      (session.takeForm cursor).map withoutSentinel := by
  have hcase : session.table.case = session.config.case := by rw [h.case_eq, h.settings]
  have hskip : (session.withoutSentinel.reader cursor).skipWhitespace.cursor =
      (session.reader cursor).skipWhitespace.cursor := rfl
  cases hend : (session.reader cursor).skipWhitespace.cursor.isAtEnd with
  | true =>
    rw [takeForm_of_end hend, takeForm_of_end (hskip ▸ hend)]
    rfl
  | false =>
    rw [takeForm_of_form hend, takeForm_of_form (hskip ▸ hend), hskip]
    exact stepAfter_withoutSentinel hcase _ (h.readForm_agrees hinvert cursor)

/-- A run emits the same lines and ends the same way with the standard table. -/
theorem WellFormed.runForms_withoutSentinel (hsession : session.Sound) (count : Nat)
    (cursor : Cursor) :
    Session.runForms count session.withoutSentinel cursor =
      (Session.runForms count session cursor).map withoutSentinel := by
  induction count generalizing session cursor with
  | zero => rfl
  | succ count ih =>
    rw [runForms_succ, runForms_succ, h.takeForm_withoutSentinel hinvert]
    cases htake : session.takeForm cursor with
    | passed lines mid place =>
      -- the session behind the form is well-formed, so the rest of the run goes alike
      have hmid := ih (h.of_passed hsession htake) (hsession.of_passed htake) place
      simp only [FormStep.map, hmid]
      rfl
    | stopped ending after => rfl

theorem WellFormed.run_withoutSentinel (hsession : session.Sound) (source : String) :
    session.withoutSentinel.run source = (session.run source).map withoutSentinel :=
  h.runForms_withoutSentinel hinvert hsession _ _

/-- No form fails because of a reference. -/
theorem WellFormed.takeForm_ne_reference (hsession : session.Sound) {cursor : Cursor}
    (hplace : cursor.InSource) (trigger : Char) (span : Span) (failure : ReferenceFailure)
    (after : Session) :
    session.takeForm cursor ≠
      .stopped (.failed (.read (.reference trigger span failure))) after := by
  intro hstop
  have hplain := h.takeForm_withoutSentinel hinvert cursor
  rw [hstop] at hplain
  have hskip := (session.withoutSentinel.reader cursor).continues_skipWhitespace
  have hstandard : (session.withoutSentinel.reader cursor).skipWhitespace.IsStandard
      session.config.case := ⟨rfl, hsession.current, hskip.inSource hplace⟩
  rcases takeForm_eq_failed hplain with ⟨cause, reader, hread, hcause, -⟩ |
    ⟨datum, reader, -, hreact⟩
  · obtain rfl := ScriptFailure.read.inj hcause
    exact hstandard.readForm_ne_reference _ _ _ _ _ hread
  · -- what stops a script behind a datum is no failure to read
    rcases react_eq_stopped hreact with ⟨_, _, hfailure, -⟩ | ⟨directive, hexecute⟩
    · cases hfailure
    · rcases execute_eq_error hexecute with ⟨_, _, -, hfailure, -⟩ | ⟨_, hfailure, -⟩ |
        ⟨_, hfailure, -⟩ <;> cases hfailure

end Invert

/-! ## Any number of runs -/

/-- The session after sources were run in it, one after the other. -/
def after (session : Session) (sources : List String) : Session :=
  sources.foldl (fun session source => (session.run source).session) session

/-- What runs of sources show, one after the other: the lines that each of them emits, and how it
ends. -/
def transcript : Session → List String → List (List String × Ending)
  | _, [] => []
  | session, source :: rest =>
      let run := session.run source
      (run.lines, run.ending) :: transcript run.session rest

theorem Reachable.after {session : Session} (h : session.Reachable) (sources : List String) :
    (session.after sources).Reachable := by
  induction sources generalizing session with
  | nil => exact h
  | cons source rest ih => exact ih (h.run source)

theorem WellFormed.after {config : SentinelConfig} {session : Session}
    (h : session.WellFormed config) (hsession : session.Sound) (sources : List String) :
    (session.after sources).WellFormed config := by
  induction sources generalizing session with
  | nil => exact h
  | cons source rest ih =>
    exact ih (h.runForms hsession _ _) (hsession.runForms _ _)

/-- Any number of runs show the same with the standard table. -/
theorem WellFormed.transcript_withoutSentinel {config : SentinelConfig} {session : Session}
    (h : session.WellFormed config) (hinvert : config.case = .invert) (hsession : session.Sound)
    (sources : List String) :
    session.withoutSentinel.transcript sources = session.transcript sources := by
  induction sources generalizing session with
  | nil => rfl
  | cons source rest ih =>
    have hrun := h.run_withoutSentinel hinvert hsession source
    have hrest := @ih (session.run source).session (h.runForms hsession _ _)
      (hsession.runForms _ _)
    rw [transcript, transcript, hrun, ScriptRun.lines_map, ScriptRun.ending_map,
      ScriptRun.session_map, hrest]

/-- What holds in a session whatever sources were run in it, failed runs included. -/
structure StaysWellFormed (config : SentinelConfig) (sources : List String) : Prop where
  /-- The session is well-formed when the runs are over. -/
  afterwards : ((start config).after sources).WellFormed config
  /-- It is well-formed between the forms of a further run. -/
  between : ∀ source lines mid place,
    Passes ((start config).after sources) (.ofString source) lines mid place →
    mid.WellFormed config
  /-- Under the policy `invert` the sentinel delegates in every namespace, between the forms as
  well. -/
  delegating : config.case = .invert → ∀ source lines mid place,
    Passes ((start config).after sources) (.ofString source) lines mid place →
    ∀ id, mid.registry.sentinelMode id = .delegating
  /-- Under the policy `invert` no further run fails because a reference cannot be read, be it on
  account of the policy or of anything else. -/
  readable : config.case = .invert → ∀ source trigger span failure,
    (((start config).after sources).run source).ending ≠
      .failed (.read (.reference trigger span failure))
  /-- Under the policy `invert` all runs emit the same lines and end the same way as in a session
  with the standard table. -/
  transcript_eq : config.case = .invert →
    (start config).transcript sources = (start config).withoutSentinel.transcript sources

/-- Every session stays well-formed. -/
theorem staysWellFormed (config : SentinelConfig) (sources : List String) :
    StaysWellFormed config sources := by
  have hstart := wellFormed_start config
  have hafter := hstart.after (sound_start config) sources
  have hsound := ((Reachable.start config).after sources).sound
  constructor
  case afterwards => exact hafter
  case between =>
    intro source lines mid place hpasses
    exact hpasses.wellFormed hafter hsound
  case delegating =>
    intro hinvert source lines mid place hpasses id
    have hunaliased := (hpasses.wellFormed hafter hsound).unaliased hinvert id
    rw [AliasRegistry.sentinelMode, hunaliased]
    rfl
  case readable =>
    intro hinvert source trigger span failure hending
    obtain ⟨last, stop, hpasses, hstop⟩ :=
      (run_eq_iff hsound).1 (@rfl _ (((start config).after sources).run source))
    rw [hending] at hstop
    have hplace := hpasses.inSource hsound (Cursor.inSource_ofString source)
    exact (hpasses.wellFormed hafter hsound).takeForm_ne_reference hinvert (hpasses.sound hsound)
      hplace trigger span failure _ hstop
  case transcript_eq =>
    intro hinvert
    exact (hstart.transcript_withoutSentinel hinvert (sound_start config) sources).symm

/-- The sentinel stands over the opening parenthesis. The first source gives an empty set of
aliases, the second one is stopped because it gives one alias, and the third one because a list does
not end. -/
theorem staysWellFormed_refusedAlias :
    let config : SentinelConfig := ⟨'(', .invert⟩
    let sources := ["(aliases) a", "(defnamespace lib (:export x)) (aliases (lib l)) b",
      "'((:a ()) \"x\") ("]
    let shown : List (List String × Ending) := [(["USER::A"], .finished),
      ([], .failed (.aliases (.unsupportedCase .invert) ⟨31, 48⟩)),
      (["'((USER:::A ()) \"x\")"], .failed (.read (.unterminatedList ⟨15, 16⟩)))]
    (start config).transcript sources = shown ∧
      (start config).withoutSentinel.transcript sources = shown ∧
      ((start config).after sources).WellFormed config := by
  intro config sources shown
  have hstays := staysWellFormed config sources
  have hshown : (start config).transcript sources = shown := by decide +kernel
  have hplain := hstays.transcript_eq rfl
  rw [hshown] at hplain
  exact ⟨hshown, hplain.symm, hstays.afterwards⟩

end Session

end AliasReader
