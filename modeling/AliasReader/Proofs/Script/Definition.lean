import AliasReader.Proofs.Namespace.Declaration
import AliasReader.Proofs.Script.Stepwise

/-!
# Definitions of Namespaces

A directive that defines a namespace lists its symbols in clauses, external and internal ones, in
any order. Clauses of one keyword add up, so what the directive does depends on which names are
listed in some clause of a keyword, and on nothing else about the clauses. When it is carried out,
a namespace with these symbols is added, and the rest of the session stays.

## Main definitions

* `Directive.Lists`: some clause of a keyword lists a name;
* `Session.Underway`: the states that a session goes through in runs;
* `Session.Defines`: what a definition does to a session.

## Main results

* `Directive.mem_clauses_iff`: the names that are gathered from clauses;
* `Session.defines_react`: which definitions are carried out, and what they do.
-/

namespace AliasReader

/-! ## Clauses -/

namespace Directive

variable {policy : CasePolicy} {keyword name : String} {kind clause : Datum String}
  {entries given rest : List (Datum String)} {names external internal : List String}

/-- Some clause of the keyword lists a name. Names of symbols are folded already when a directive is
taken, and so is the keyword of a clause; a text is as it was written. -/
def Lists (policy : CasePolicy) (keyword : String) (given : List (Datum String)) (name : String) :
    Prop :=
  ∃ kind entries, .list (kind :: entries) ∈ given ∧ kind.word? = some (policy.fold keyword) ∧
    ∃ entry ∈ entries, entry.word? = some name

theorem not_lists_nil : ¬ Lists policy keyword [] name := by
  rintro ⟨_, _, hmem, -⟩
  cases hmem

/-- A name is listed in the first clause, if that has the keyword, or in a later one. -/
theorem lists_cons_iff :
    Lists policy keyword (.list (kind :: entries) :: rest) name ↔
      (kind.word? = some (policy.fold keyword) ∧ ∃ entry ∈ entries, entry.word? = some name) ∨
        Lists policy keyword rest name := by
  unfold Lists
  constructor
  · rintro ⟨kind', entries', hmem, hkind⟩
    rcases List.mem_cons.1 hmem with heq | hlater
    · cases heq
      exact Or.inl hkind
    · exact Or.inr ⟨kind', entries', hlater, hkind⟩
  · rintro (hkind | ⟨kind', entries', hmem, hkind⟩)
    · exact ⟨kind, entries, List.mem_cons_self, hkind⟩
    · exact ⟨kind', entries', List.mem_cons_of_mem _ hmem, hkind⟩

/-- The words of data are those of each of them. -/
theorem mem_words?_iff (h : words? entries = some names) :
    name ∈ names ↔ ∃ entry ∈ entries, entry.word? = some name := by
  induction entries generalizing names with
  | nil =>
    cases h
    simp
  | cons entry entries ih =>
    rw [words?] at h
    split at h
    next word words hword hwords =>
      cases h
      simp only [List.mem_cons, exists_eq_or_imp, ih hwords, hword, Option.some.injEq,
        eq_comm (a := name)]
    next => cases h

/-- The two keywords of clauses are told apart under every policy. -/
theorem fold_export_ne_fold_intern (policy : CasePolicy) :
    policy.fold ":export" ≠ policy.fold ":intern" := by
  cases policy <;> decide

/-- The keyword of a clause is the word that the clause starts with. -/
theorem word?_eq_of_getD (hkeyword : keyword ≠ "")
    (h : kind.word?.getD "" = policy.fold keyword) : kind.word? = some (policy.fold keyword) := by
  rcases hword : kind.word? with _ | word
  · rw [hword] at h
    exact absurd h.symm (policy.fold_ne_empty hkeyword)
  · rw [hword] at h
    exact congrArg some h

/-- A clause in front of others is a list with one of the two keywords, and adds its words to the
external names or to the internal ones. -/
theorem clauses_cons_eq_ok (h : clauses policy (clause :: rest) = .ok (external, internal)) :
    ∃ kind entries names external' internal', clause = .list (kind :: entries) ∧
      words? entries = some names ∧ clauses policy rest = .ok (external', internal') ∧
      ((kind.word? = some (policy.fold ":export") ∧ external = names ++ external' ∧
          internal = internal') ∨
        (kind.word? = some (policy.fold ":intern") ∧ external = external' ∧
          internal = names ++ internal')) := by
  -- anything but a list of words behind one of the keywords is an error
  unfold clauses at h
  split at h
  next heq => cases heq
  next kind entries rest' heq =>
    cases heq
    split at h
    next => cases h
    next names hnames =>
      rcases hrest : clauses policy rest with _ | ⟨external', internal'⟩
      · rw [hrest] at h
        dsimp only at h
        split at h
        · cases h
        · split at h <;> cases h
      · rw [hrest] at h
        dsimp only at h
        split at h
        next hkind =>
          cases h
          exact ⟨kind, entries, names, _, _, rfl, hnames, rfl,
            Or.inl ⟨word?_eq_of_getD (by decide) hkind, rfl, rfl⟩⟩
        next =>
          split at h
          next hkind =>
            cases h
            exact ⟨kind, entries, names, _, _, rfl, hnames, rfl,
              Or.inr ⟨word?_eq_of_getD (by decide) hkind, rfl, rfl⟩⟩
          next => cases h
  next => cases h

/-- The names that are gathered from clauses are those that some clause of the keyword lists. -/
theorem mem_clauses_iff (h : clauses policy given = .ok (external, internal)) (name : String) :
    (name ∈ external ↔ Lists policy ":export" given name) ∧
      (name ∈ internal ↔ Lists policy ":intern" given name) := by
  induction given generalizing external internal with
  | nil =>
    cases h
    exact ⟨iff_of_false List.not_mem_nil not_lists_nil, iff_of_false List.not_mem_nil not_lists_nil⟩
  | cons clause rest ih =>
    have hne := fold_export_ne_fold_intern policy
    obtain ⟨kind, entries, names, external', internal', rfl, hnames, hrest, hkind⟩ :=
      clauses_cons_eq_ok h
    obtain ⟨hexternal, hinternal⟩ := ih hrest
    rw [lists_cons_iff, lists_cons_iff, ← mem_words?_iff hnames, ← hexternal, ← hinternal]
    -- the clause has one of the keywords, and so not the other
    rcases hkind with ⟨hkind, rfl, rfl⟩ | ⟨hkind, rfl, rfl⟩
    · simp [hkind, hne]
    · simp [hkind, hne.symm]

/-- A definition names a namespace and goes on with clauses. -/
theorem exists_clauses_of_ofDatum? {spelled : Datum String} {directive : Directive}
    (h : ofDatum? policy spelled = some (.defnamespace, .ok directive)) :
    ∃ head title given name external internal,
      spelled = .list (.symbol head :: title :: given) ∧ title.word? = some name ∧
        clauses policy given = .ok (external, internal) ∧
        directive = .define name external internal := by
  unfold ofDatum? at h
  split at h
  next head arguments =>
    obtain ⟨keyword, -, heq⟩ := Option.map_eq_some_iff.1 h
    obtain ⟨rfl, harguments⟩ := Prod.mk.inj heq
    rcases arguments with _ | ⟨title, given⟩
    · cases harguments
    · rw [ofArguments] at harguments
      split at harguments
      next => cases harguments
      next name hname =>
        rcases hclauses : clauses policy given with _ | ⟨external, internal⟩
        · rw [hclauses] at harguments
          cases harguments
        · rw [hclauses] at harguments
          cases harguments
          exact ⟨head, title, given, name, external, internal, rfl, hname, hclauses, rfl⟩
  next => cases h

end Directive

namespace Session

variable {session after : Session} {span : Span}

/-! ## Carrying out -/

/-- A datum that is executed is a directive, which is carried out without failure. -/
theorem react_eq_executed {datum : Datum SymbolId}
    (h : session.react span datum = .executed after) :
    ∃ spelled keyword directive, session.host.spell? datum = some spelled ∧
      Directive.ofDatum? session.table.case spelled = some (keyword, .ok directive) ∧
      session.execute span directive = (.ok (), after) := by
  unfold react at h
  split at h
  next => cases h
  next spelled hspelled =>
    split at h
    next => cases h
    next keyword directive hdirective =>
      split at h
      next => cases h
      next hexecute =>
        cases h
        exact ⟨spelled, keyword, directive, hspelled, hdirective, hexecute⟩
    next => split at h <;> cases h

/-- A definition that does not fail adds a namespace and makes its symbols. -/
theorem execute_define_eq_ok {name : String} {external internal : List String}
    (h : session.execute span (.define name external internal) = (.ok (), after)) :
    session.host.index.find? name = none ∧
      after = { session with
        host := ((session.host.noteNames [name]).addNamespace name).performAll
          (SymbolTable.declarations ⟨session.host.namespaces.length⟩ external internal) } := by
  rw [execute] at h
  rcases hfind : session.host.index.find? name with _ | owner
  · rw [SymbolTable.create_of_free hfind] at h
    dsimp only at h
    rw [declare_eq_performAll] at h
    exact ⟨rfl, (congrArg Prod.snd h).symm⟩
  · rw [SymbolTable.create_of_taken hfind] at h
    cases h

/-! ## States in the course of runs -/

/-- The states that a session goes through: between runs, behind a form of a script, and behind a
datum that was read and is to be reacted to. -/
inductive Underway : Session → Prop
  /-- No script is run. -/
  | between {session : Session} : session.Reachable → Underway session
  /-- A form was passed. -/
  | passed {session mid : Session} {cursor place : Cursor} {lines : List String} :
      Underway session → session.takeForm cursor = .passed lines mid place → Underway mid
  /-- A datum was read. -/
  | reading {session : Session} {cursor : Cursor} {reader : Reader} {datum : Datum SymbolId} :
      Underway session →
      (session.reader cursor).readForm session.stores = .value (some datum) reader →
      Underway (session.afterReading reader)

/-- In the course of runs sessions are sound. -/
theorem Underway.sound (h : session.Underway) : session.Sound := by
  induction h with
  | between h => exact h.sound
  | passed _ htake ih => exact ih.of_passed htake
  | @reading session cursor reader datum _ hread ih =>
    -- reading interned names in the current namespace, and nothing else
    have hinterned := Reader.readForm_interned session.stores (ih.reader cursor).table
    rw [hread] at hinterned
    exact ih.afterReading hinterned

/-! ## Definitions -/

/-- A definition with the given clauses was carried out in a session. -/
structure Defines (session : Session) (id : NamespaceId) (name : String)
    (given : List (Datum String)) (after : Session) : Prop where
  /-- A namespace was added. The names that some clause lists are those of its symbols, and they are
  external when they are listed for export. -/
  host : session.host.Declares id name (Directive.Lists session.table.case ":export" given)
    (Directive.Lists session.table.case ":intern" given) after.host
  /-- The aliases stay. -/
  registry : after.registry = session.registry
  /-- The current namespace stays. -/
  current : after.current = session.current
  /-- The table to read with stays. -/
  table : after.table = session.table
  /-- The settings stay. -/
  config : after.config = session.config

section React

variable {datum : Datum SymbolId} {spelled : Datum String} {result : Except Malformation Directive}
  (hspelled : session.host.spell? datum = some spelled)
  (hdirective : Directive.ofDatum? session.table.case spelled = some (.defnamespace, result))

include hspelled hdirective

/-- A definition that is carried out is well-formed, and its name meant nothing before. -/
theorem exists_clauses_of_executed (hreact : session.react span datum = .executed after) :
    ∃ head title given name external internal,
      spelled = .list (.symbol head :: title :: given) ∧ title.word? = some name ∧
        Directive.clauses session.table.case given = .ok (external, internal) ∧
        result = .ok (.define name external internal) ∧
        session.execute span (.define name external internal) = (.ok (), after) := by
  obtain ⟨spelled', keyword, directive, hspelled', hdirective', hexecute⟩ :=
    react_eq_executed hreact
  obtain rfl := Option.some.inj (hspelled.symm.trans hspelled')
  -- the directive that is carried out is the one that was recognised
  rw [hdirective] at hdirective'
  cases hdirective'
  obtain ⟨head, title, given, name, external, internal, hlist, htitle, hclauses, rfl⟩ :=
    Directive.exists_clauses_of_ofDatum? hdirective
  exact ⟨head, title, given, name, external, internal, hlist, htitle, hclauses, rfl, hexecute⟩

/-- A definition is carried out exactly when it is well-formed and its name means nothing yet. -/
theorem exists_executed_iff :
    (∃ after, session.react span datum = .executed after) ↔
      ∃ name external internal, result = .ok (.define name external internal) ∧
        session.host.find? (.named name) = none := by
  constructor
  · rintro ⟨after, hreact⟩
    obtain ⟨_, _, _, name, external, internal, -, -, -, hresult, hexecute⟩ :=
      exists_clauses_of_executed hspelled hdirective hreact
    exact ⟨name, external, internal, hresult, (execute_define_eq_ok hexecute).1⟩
  · rintro ⟨name, external, internal, rfl, hunused⟩
    rw [SymbolTable.find?] at hunused
    simp only [react, hspelled, hdirective, execute, SymbolTable.create_of_free hunused]
    exact ⟨_, rfl⟩

/-- In every state of a session a definition is carried out exactly when it is well-formed and its
name means nothing yet. Then it defines the namespace that it names, with the symbols that its
clauses list. -/
theorem defines_react (h : session.Underway) (span : Span) :
    ((∃ after, session.react span datum = .executed after) ↔
      ∃ name external internal, result = .ok (.define name external internal) ∧
        session.host.find? (.named name) = none) ∧
    ∀ after, session.react span datum = .executed after →
      ∃ head title given name id, spelled = .list (.symbol head :: title :: given) ∧
        title.word? = some name ∧ session.Defines id name given after := by
  refine ⟨exists_executed_iff hspelled hdirective, fun after hreact => ?_⟩
  obtain ⟨head, title, given, name, external, internal, hlist, htitle, hclauses, -, hexecute⟩ :=
    exists_clauses_of_executed hspelled hdirective hreact
  obtain ⟨hunused, rfl⟩ := execute_define_eq_ok hexecute
  refine ⟨head, title, given, name, ⟨session.host.namespaces.length⟩, hlist, htitle, ?_, rfl, rfl,
    rfl, rfl⟩
  exact SymbolTable.declares_performAll h.sound.host hunused
    (fun text => (Directive.mem_clauses_iff hclauses text).1)
    (fun text => (Directive.mem_clauses_iff hclauses text).2)

end React

/-- Under the policy `upcase`, a definition with three clauses. Its names are symbols and texts,
some of them are listed twice in one clause, and one name is listed by clauses of both keywords. -/
theorem defines_react_clauses :
    let session := ((start ⟨'$', .upcase⟩).run "defnamespace :export :intern a").session
    let datum : Datum SymbolId := .list [.symbol ⟨0⟩, .text "lib",
      .list [.symbol ⟨2⟩, .symbol ⟨3⟩, .text "a", .text "a"],
      .list [.symbol ⟨1⟩, .symbol ⟨3⟩, .symbol ⟨3⟩], .list [.symbol ⟨2⟩, .symbol ⟨1⟩]]
    session.Underway ∧ ∃ after, session.react ⟨0, 0⟩ datum = .executed after ∧
      (["A", "a", ":EXPORT", ":INTERN"].map (after.host.lookup? ⟨1⟩)) =
        [some (.found ⟨4⟩ .external), some (.found ⟨5⟩ .internal), some (.found ⟨6⟩ .internal),
          some .missing] ∧
      ∃ given name id, session.Defines id name given after := by
  intro session datum
  have hsession : session.Underway := .between (.run _ (.start _))
  have hkeyword : ((session.host.spell? datum).bind
      (Directive.ofDatum? session.table.case)).map Prod.fst = some .defnamespace := by
    decide +kernel
  have hlookups : (match session.react ⟨0, 0⟩ datum with
      | .executed after => ["A", "a", ":EXPORT", ":INTERN"].map (after.host.lookup? ⟨1⟩)
      | _ => []) =
      [some (.found ⟨4⟩ .external), some (.found ⟨5⟩ .internal), some (.found ⟨6⟩ .internal),
        some .missing] := by decide +kernel
  obtain ⟨⟨_, result⟩, hbind, rfl⟩ := Option.map_eq_some_iff.1 hkeyword
  obtain ⟨spelled, hspelled, hdirective⟩ := Option.bind_eq_some_iff.1 hbind
  rcases hreact : session.react ⟨0, 0⟩ datum with _ | after | _ | _
  case executed =>
    rw [hreact] at hlookups
    obtain ⟨_, _, given, name, id, -, -, hdefines⟩ :=
      (defines_react hspelled hdirective hsession ⟨0, 0⟩).2 after hreact
    exact ⟨hsession, after, rfl, hlookups, given, name, id, hdefines⟩
  all_goals
    rw [hreact] at hlookups
    cases hlookups

end Session

end AliasReader
