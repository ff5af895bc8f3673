import AliasReader.Command.Options
import Mathlib.Data.List.Basic
import Mathlib.Tactic.MkIffOfInductiveProp

/-!
# Arguments of `read`

The arguments of `read` are gone through from left to right, and the first one at fault ends it.
Whether they are accepted and what they ask for does not depend on their order: there has to be one
path, every other argument has to be an option that is well-formed by itself, and of the options of
one kind the last one counts. Only which fault a refusal names is a matter of order.

## Main definitions

* `ReadArgument.Denotes`: how an argument of each meaning is written;
* `ReadOptions.Draft.Leads`: what going through arguments makes of what is known already.

## Main results

* `ReadArgument.parse_eq_ok_iff`: an argument is understood exactly when it is written that way;
* `ReadOptions.Draft.addAll_eq_ok_iff`: what going through arguments comes to;
* `ReadOptions.parse_inAnyOrder`: which lists are accepted, and what they ask for.
-/

namespace AliasReader

/-! ## One argument -/

namespace ReadArgument

/-- The argument that gives a trigger. -/
def writtenTrigger (c : Char) : String := "--trigger=" ++ String.ofList [c]

/-- The argument that gives a case policy. -/
def writtenCase (policy : CasePolicy) : String := "--case=" ++ policy.name

/-- Whether an argument is one that gives a trigger, well-formed or not. -/
def isTrigger (argument : String) : Bool := "--trigger=".toList.isPrefixOf argument.toList

/-- Whether an argument is one that gives a case policy, well-formed or not. -/
def isCase (argument : String) : Bool := "--case=".toList.isPrefixOf argument.toList

/-- Whether an argument does not start with a dash. -/
def isPath (argument : String) : Bool := argument.toList.head? ≠ some '-'

/-- How an argument of each meaning is written. -/
inductive Denotes : String → ReadArgument → Prop
  /-- A trigger is a single character that is no white space. -/
  | trigger {c : Char} : Unicode.isWhitespace c = false → Denotes (writtenTrigger c) (.trigger c)
  /-- A case policy goes by its name. -/
  | case (policy : CasePolicy) : Denotes (writtenCase policy) (.case policy)
  /-- Colours are switched off. -/
  | noColor : Denotes "--no-color" .noColor
  /-- Whatever does not start with a dash is a path. -/
  | path {argument : String} : isPath argument = true → Denotes argument (.path argument)

@[simp]
theorem toList_writtenTrigger (c : Char) :
    (writtenTrigger c).toList = "--trigger=".toList ++ [c] := by
  simp [writtenTrigger]

@[simp]
theorem toList_writtenCase (policy : CasePolicy) :
    (writtenCase policy).toList = "--case=".toList ++ policy.name.toList := by
  rw [writtenCase, String.toList_append]

theorem writtenTrigger_inj {c d : Char} : writtenTrigger c = writtenTrigger d ↔ c = d := by
  simp [← String.toList_inj]

theorem writtenCase_inj {policy other : CasePolicy} :
    writtenCase policy = writtenCase other ↔ policy = other := by
  cases policy <;> cases other <;> decide

/-- A policy that a name leads to has that name. -/
theorem name_of_ofName? {text : String} {policy : CasePolicy}
    (h : CasePolicy.ofName? text = some policy) : policy.name = text := by
  have hfound := List.find?_some h
  simpa using hfound

/-- A path is no option with a given beginning. -/
theorem isPrefixOf?_of_isPath {argument : String} (h : isPath argument = true) (rest : List Char) :
    ('-' :: rest).isPrefixOf? argument.toList = none := by
  have hhead : argument.toList.head? ≠ some '-' := by simpa [isPath] using h
  cases hlist : argument.toList with
  | nil => rfl
  | cons c cs =>
    have hne : '-' ≠ c := by
      rintro rfl
      exact hhead (by rw [hlist]; rfl)
    rw [List.isPrefixOf?, beq_false_of_ne hne]
    rfl

/-- What is written as an argument of a meaning is understood so. -/
theorem Denotes.parse_eq {argument : String} {meaning : ReadArgument}
    (h : Denotes argument meaning) : parse argument = .ok meaning := by
  cases h with
  | @trigger c hspace =>
    have hprefix : "--trigger=".toList.isPrefixOf? (writtenTrigger c).toList = some [c] :=
      List.isPrefixOf?_eq_some_iff_append_eq.2 (toList_writtenTrigger c).symm
    rw [parse, hprefix]
    simp [hspace]
  | case policy => cases policy <;> rfl
  | noColor => rfl
  | path hpath =>
    have hne : argument ≠ "--no-color" := by
      rintro rfl
      exact absurd hpath (by decide)
    have hdash : argument.toList.head? ≠ some '-' := by simpa [isPath] using hpath
    have htrigger : "--trigger=".toList.isPrefixOf? argument.toList = none :=
      isPrefixOf?_of_isPath hpath _
    have hcase : "--case=".toList.isPrefixOf? argument.toList = none :=
      isPrefixOf?_of_isPath hpath _
    rw [parse, htrigger, hcase]
    simp only [if_neg hne, if_neg hdash]

/-- An argument that is understood is written as one of its meaning. -/
theorem denotes_of_parse {argument : String} {meaning : ReadArgument}
    (h : parse argument = .ok meaning) : Denotes argument meaning := by
  unfold parse at h
  dsimp only at h
  -- the cases are those of the beginning: that of a trigger, that of a case policy, or neither
  split at h
  next c hwritten =>
    have hargument : argument = writtenTrigger c := by
      rw [← String.toList_inj, toList_writtenTrigger]
      exact (List.isPrefixOf?_eq_some_iff_append_eq.1 hwritten).symm
    split at h
    next => cases h
    next hspace =>
      obtain rfl := Except.ok.inj h
      rw [hargument]
      exact .trigger (by simpa using hspace)
  next => cases h
  next =>
    split at h
    next given hwritten =>
      split at h
      next policy hpolicy =>
        obtain rfl := Except.ok.inj h
        have hargument : argument = writtenCase policy := by
          rw [← String.toList_inj, toList_writtenCase, name_of_ofName? hpolicy,
            String.toList_ofList (l := given)]
          exact (List.isPrefixOf?_eq_some_iff_append_eq.1 hwritten).symm
        rw [hargument]
        exact .case policy
      next => cases h
    next =>
      split at h
      next hargument =>
        obtain rfl := Except.ok.inj h
        rw [hargument]
        exact .noColor
      next =>
        split at h
        next => cases h
        next hdash =>
          obtain rfl := Except.ok.inj h
          exact .path (by simpa [isPath] using hdash)

/-- An argument is understood exactly when it is written as one of its meaning. -/
theorem parse_eq_ok_iff {argument : String} {meaning : ReadArgument} :
    parse argument = .ok meaning ↔ Denotes argument meaning :=
  ⟨denotes_of_parse, Denotes.parse_eq⟩

/-! Of which kinds an argument of each meaning is. -/

variable {argument : String}

theorem isTrigger_writtenTrigger (c : Char) : isTrigger (writtenTrigger c) = true :=
  List.isPrefixOf_iff_prefix.2 ⟨[c], (toList_writtenTrigger c).symm⟩

theorem isCase_writtenTrigger (c : Char) : isCase (writtenTrigger c) = false := by
  rw [isCase, toList_writtenTrigger]
  rfl

theorem isPath_writtenTrigger (c : Char) : isPath (writtenTrigger c) = false := by
  rw [isPath, toList_writtenTrigger]
  rfl

theorem writtenTrigger_ne (c : Char) : "--no-color" ≠ writtenTrigger c := by
  intro h
  exact absurd (isTrigger_writtenTrigger c) (by rw [← h]; decide)

theorem isTrigger_of_isPath (h : isPath argument = true) : isTrigger argument = false := by
  rw [isTrigger, ← List.isSome_isPrefixOf?_eq_isPrefixOf]
  exact congrArg Option.isSome (isPrefixOf?_of_isPath h _)

theorem isCase_of_isPath (h : isPath argument = true) : isCase argument = false := by
  rw [isCase, ← List.isSome_isPrefixOf?_eq_isPrefixOf]
  exact congrArg Option.isSome (isPrefixOf?_of_isPath h _)

theorem ne_of_isPath (h : isPath argument = true) : "--no-color" ≠ argument := by
  rintro rfl
  exact absurd h (by decide)

/-! ## Arguments of a kind -/

/-- The last argument of a kind, or another text if there is none. -/
def lastOr (kind : String → Bool) (default : String) (arguments : List String) : String :=
  (arguments.filter kind).getLast?.getD default

theorem lastOr_cons_of_pos {kind : String → Bool} (default : String) (rest : List String)
    (h : kind argument = true) :
    lastOr kind default (argument :: rest) = lastOr kind argument rest := by
  rw [lastOr, List.filter_cons_of_pos h, List.getLast?_cons, Option.getD_some, lastOr]

theorem lastOr_cons_of_neg {kind : String → Bool} (default : String) (rest : List String)
    (h : kind argument = false) :
    lastOr kind default (argument :: rest) = lastOr kind default rest := by
  rw [lastOr, List.filter_cons_of_neg (by simp [h]), lastOr]

end ReadArgument

/-! ## Going through arguments -/

namespace ReadOptions

open ReadArgument

/-- What going through arguments makes of what is known already. Every argument is understood, there
is no second path, of each kind of option the last argument counts, and colours are switched off if
any argument does so. -/
@[mk_iff]
structure Draft.Leads (draft : Draft) (arguments : List String) (final : Draft) : Prop where
  /-- Every argument is understood. -/
  understood : ∀ argument ∈ arguments, ∃ meaning, Denotes argument meaning
  /-- There is at most one path. -/
  path : draft.path.toList ++ arguments.filter isPath = final.path.toList
  /-- The last trigger counts. -/
  trigger : lastOr isTrigger (writtenTrigger draft.config.trigger) arguments =
    writtenTrigger final.config.trigger
  /-- The last case policy counts. -/
  case : lastOr isCase (writtenCase draft.config.case) arguments =
    writtenCase final.config.case
  /-- Colours are switched off, or as before. -/
  color : final.color = if "--no-color" ∈ arguments then .never else draft.color

namespace Draft

variable {draft final : Draft} {argument : String} {rest : List String}

/-- Without arguments everything is as before. -/
theorem leads_nil_iff : draft.Leads [] final ↔ draft = final := by
  constructor
  · intro h
    obtain ⟨path, ⟨trigger, case⟩, color⟩ := draft
    obtain ⟨path', ⟨trigger', case'⟩, color'⟩ := final
    have hpath : path = path' := by
      have hlist := h.path
      cases path <;> cases path' <;> simp_all
    have htrigger : trigger = trigger' := writtenTrigger_inj.1 h.trigger
    have hcase : case = case' := writtenCase_inj.1 h.case
    have hcolor : color' = color := h.color
    rw [hpath, htrigger, hcase, hcolor]
  · rintro rfl
    exact ⟨by simp, by simp, rfl, rfl, rfl⟩

/-! The first argument, by its meaning. -/

theorem leads_trigger_cons_iff {c : Char} (h : Unicode.isWhitespace c = false) :
    draft.Leads (writtenTrigger c :: rest) final ↔
      Leads { draft with config := { draft.config with trigger := c } } rest final := by
  have hunderstood : ∃ meaning, Denotes (writtenTrigger c) meaning := ⟨_, .trigger h⟩
  simp only [leads_iff, List.mem_cons, forall_eq_or_imp, hunderstood, true_and,
    List.filter_cons, isPath_writtenTrigger, lastOr_cons_of_pos _ _ (isTrigger_writtenTrigger c),
    lastOr_cons_of_neg _ _ (isCase_writtenTrigger c), writtenTrigger_ne, false_or]
  rfl

theorem leads_case_cons_iff (policy : CasePolicy) :
    draft.Leads (writtenCase policy :: rest) final ↔
      Leads { draft with config := { draft.config with case := policy } } rest final := by
  have hunderstood : ∃ meaning, Denotes (writtenCase policy) meaning := ⟨_, .case policy⟩
  have hpath : isPath (writtenCase policy) = false := by cases policy <;> rfl
  have htrigger : isTrigger (writtenCase policy) = false := by cases policy <;> rfl
  have hcase : isCase (writtenCase policy) = true := by cases policy <;> rfl
  have hne : "--no-color" ≠ writtenCase policy := by cases policy <;> decide
  simp only [leads_iff, List.mem_cons, forall_eq_or_imp, hunderstood, true_and,
    List.filter_cons, hpath, lastOr_cons_of_neg _ _ htrigger, lastOr_cons_of_pos _ _ hcase, hne,
    false_or]
  rfl

theorem leads_noColor_cons_iff :
    draft.Leads ("--no-color" :: rest) final ↔
      Leads { draft with color := .never } rest final := by
  have hunderstood : ∃ meaning, Denotes "--no-color" meaning := ⟨_, .noColor⟩
  have hpath : isPath "--no-color" = false := by decide
  have htrigger : isTrigger "--no-color" = false := by decide
  have hcase : isCase "--no-color" = false := by decide
  simp only [leads_iff, List.mem_cons, forall_eq_or_imp, hunderstood, true_and,
    List.filter_cons, hpath, lastOr_cons_of_neg _ _ htrigger, lastOr_cons_of_neg _ _ hcase,
    true_or, if_true, ite_self]
  rfl

theorem leads_path_cons_iff (h : isPath argument = true) :
    draft.Leads (argument :: rest) final ↔
      draft.path = none ∧ Leads { draft with path := some argument } rest final := by
  have hunderstood : ∃ meaning, Denotes argument meaning := ⟨_, .path h⟩
  -- a path in front of another one is one too many
  have hone : draft.path.toList ++ argument :: rest.filter isPath = final.path.toList ↔
      draft.path = none ∧ [argument] ++ rest.filter isPath = final.path.toList := by
    cases draft.path <;> cases final.path <;> simp
  simp only [leads_iff, List.mem_cons, forall_eq_or_imp, hunderstood, true_and,
    List.filter_cons, h, lastOr_cons_of_neg _ _ (isTrigger_of_isPath h),
    lastOr_cons_of_neg _ _ (isCase_of_isPath h), ne_of_isPath h, false_or, if_true, hone,
    Option.toList_some]
  tauto

/-- Going through arguments comes to what they lead to. -/
theorem addAll_eq_ok_iff {arguments : List String} :
    draft.addAll arguments = .ok final ↔ draft.Leads arguments final := by
  induction arguments generalizing draft with
  | nil =>
    rw [leads_nil_iff, addAll]
    exact ⟨Except.ok.inj, congrArg Except.ok⟩
  | cons argument rest ih =>
    unfold addAll
    cases hmeaning : ReadArgument.parse argument with
    | error failure =>
      constructor
      · intro h
        cases h
      · intro h
        -- an argument that is not understood leads to nothing
        obtain ⟨meaning, hdenotes⟩ := h.understood argument List.mem_cons_self
        rw [hdenotes.parse_eq] at hmeaning
        cases hmeaning
    | ok meaning =>
      cases denotes_of_parse hmeaning with
      | trigger hspace =>
        rw [leads_trigger_cons_iff hspace]
        exact ih
      | case policy =>
        rw [leads_case_cons_iff policy]
        exact ih
      | noColor =>
        rw [leads_noColor_cons_iff]
        exact ih
      | path hpath =>
        rw [leads_path_cons_iff hpath]
        unfold add
        cases hgiven : draft.path with
        | none => simpa using ih
        | some given => simp

end Draft

variable {arguments others : List String} {options : ReadOptions}

/-- Arguments ask for options when they lead to them from nothing. -/
theorem parse_eq_ok_iff :
    parse arguments = .ok options ↔
      ({} : Draft).Leads arguments ⟨some options.path, options.config, options.color⟩ := by
  rw [← Draft.addAll_eq_ok_iff, parse]
  cases hdraft : ({} : Draft).addAll arguments with
  | error failure => simp
  | ok draft =>
    obtain ⟨path, config, color⟩ := draft
    cases path with
    | none => simp
    | some path =>
      obtain ⟨path', config', color'⟩ := options
      simp

/-- An argument that is understood and gives a trigger is that of the trigger. -/
theorem exists_eq_writtenTrigger {argument : String} {meaning : ReadArgument}
    (h : Denotes argument meaning) (hkind : isTrigger argument = true) :
    ∃ c, argument = writtenTrigger c := by
  cases h with
  | @trigger c _ => exact ⟨c, rfl⟩
  | case policy => cases policy <;> exact absurd hkind (by decide)
  | noColor => exact absurd hkind (by decide)
  | path hpath => rw [isTrigger_of_isPath hpath] at hkind; cases hkind

/-- An argument that is understood and gives a case policy is that of the policy. -/
theorem exists_eq_writtenCase {argument : String} {meaning : ReadArgument}
    (h : Denotes argument meaning) (hkind : isCase argument = true) :
    ∃ policy, argument = writtenCase policy := by
  cases h with
  | @trigger c _ => rw [isCase_writtenTrigger] at hkind; cases hkind
  | case policy => exact ⟨policy, rfl⟩
  | noColor => exact absurd hkind (by decide)
  | path hpath => rw [isCase_of_isPath hpath] at hkind; cases hkind

/-- If the arguments of a kind are written values, the last one is, or the default stays. -/
theorem exists_lastOr_eq {α : Type} {kind : String → Bool} {written : α → String}
    (hwritten : ∀ argument ∈ arguments, kind argument = true → ∃ value, argument = written value)
    (default : α) : ∃ value, lastOr kind (written default) arguments = written value := by
  unfold lastOr
  cases hlast : (arguments.filter kind).getLast? with
  | none => exact ⟨default, rfl⟩
  | some argument =>
    obtain ⟨hmem, hkind⟩ := List.mem_filter.1 (List.mem_of_getLast? hlast)
    exact hwritten argument hmem hkind

/-- A list of arguments is accepted exactly when one of them is a path and every other one is a
well-formed option. -/
theorem exists_parse_eq_ok_iff :
    (∃ options, parse arguments = .ok options) ↔
      (∃ path, arguments.filter isPath = [path]) ∧
        ∀ argument ∈ arguments, isPath argument = false → ∃ meaning, Denotes argument meaning := by
  constructor
  · rintro ⟨options, hparse⟩
    have hleads := parse_eq_ok_iff.1 hparse
    exact ⟨⟨options.path, hleads.path⟩, fun argument hmem _ => hleads.understood argument hmem⟩
  · rintro ⟨⟨path, hpath⟩, hoptions⟩
    have hunderstood : ∀ argument ∈ arguments, ∃ meaning, Denotes argument meaning := by
      intro argument hmem
      cases hkind : isPath argument with
      | true => exact ⟨_, .path hkind⟩
      | false => exact hoptions argument hmem hkind
    obtain ⟨c, hc⟩ : ∃ c, lastOr isTrigger (writtenTrigger '$') arguments = writtenTrigger c := by
      apply exists_lastOr_eq
      intro argument hmem hkind
      obtain ⟨meaning, hdenotes⟩ := hunderstood argument hmem
      exact exists_eq_writtenTrigger hdenotes hkind
    obtain ⟨policy, hpolicy⟩ :
        ∃ policy, lastOr isCase (writtenCase .upcase) arguments = writtenCase policy := by
      apply exists_lastOr_eq
      intro argument hmem hkind
      obtain ⟨meaning, hdenotes⟩ := hunderstood argument hmem
      exact exists_eq_writtenCase hdenotes hkind
    exact ⟨⟨path, ⟨c, policy⟩, _⟩, parse_eq_ok_iff.2 ⟨hunderstood, hpath, hc, hpolicy, rfl⟩⟩

/-- Arguments in another order ask for the same options, if those that give triggers are in the same
order as before and those that give case policies are, too. -/
theorem parse_eq_ok_of_perm (hperm : arguments.Perm others)
    (htrigger : arguments.filter isTrigger = others.filter isTrigger)
    (hcase : arguments.filter isCase = others.filter isCase)
    (h : parse arguments = .ok options) : parse others = .ok options := by
  have hleads := parse_eq_ok_iff.1 h
  refine parse_eq_ok_iff.2 ⟨?_, ?_, ?_, ?_, ?_⟩
  · intro argument hmem
    exact hleads.understood argument (hperm.mem_iff.2 hmem)
  · -- one path is in one order only
    have hpath : arguments.filter isPath = [options.path] := hleads.path
    have hothers := hperm.filter isPath
    rw [hpath] at hothers
    exact List.singleton_perm.1 hothers |>.symm
  · rw [lastOr, ← htrigger]
    exact hleads.trigger
  · rw [lastOr, ← hcase]
    exact hleads.case
  · rw [hleads.color]
    simp only [hperm.mem_iff]

/-- Exactly the well-formed lists of arguments are accepted: one argument does not start with a dash,
and every other one switches colours off, gives a single character that is no white space as the
trigger, or gives a case policy by its name. The argument without a dash is the path, the last
trigger and the last case policy count, or the defaults, and colours are off if any argument says
so. Hence the order of the arguments does not matter, as long as those that give triggers stay in
order, and those that give case policies: an accepted list asks for the same in any such order, and
a refused one is refused in any. -/
theorem parse_inAnyOrder (arguments : List String) :
    ((∃ options, parse arguments = .ok options) ↔
      (∃ path, arguments.filter isPath = [path]) ∧
        ∀ argument ∈ arguments, isPath argument = false → ∃ meaning, Denotes argument meaning) ∧
    (∀ options, parse arguments = .ok options →
      arguments.filter isPath = [options.path] ∧
        lastOr isTrigger (writtenTrigger '$') arguments = writtenTrigger options.config.trigger ∧
        lastOr isCase (writtenCase .upcase) arguments = writtenCase options.config.case ∧
        options.color = if "--no-color" ∈ arguments then .never else .auto) ∧
    (∀ others, arguments.Perm others →
      arguments.filter isTrigger = others.filter isTrigger →
      arguments.filter isCase = others.filter isCase →
      ∀ options, parse others = .ok options ↔ parse arguments = .ok options) := by
  refine ⟨exists_parse_eq_ok_iff, ?_, ?_⟩
  · intro options hparse
    have hleads := parse_eq_ok_iff.1 hparse
    exact ⟨hleads.path, hleads.trigger, hleads.case, hleads.color⟩
  · intro others hperm htrigger hcase options
    constructor
    · exact parse_eq_ok_of_perm hperm.symm htrigger.symm hcase.symm
    · exact parse_eq_ok_of_perm hperm htrigger hcase

/-- Of two triggers the later one counts, wherever the other arguments stand. -/
theorem parse_inAnyOrder_lastTrigger :
    let arguments := ["--trigger=!", "a.nick", "--case=preserve", "--trigger=@", "--no-color"]
    let others := ["--no-color", "--trigger=!", "--trigger=@", "a.nick", "--case=preserve"]
    let options : ReadOptions := ⟨"a.nick", ⟨'@', .preserve⟩, .never⟩
    arguments.Perm others ∧ arguments.filter isTrigger = others.filter isTrigger ∧
      arguments.filter isCase = others.filter isCase ∧ parse arguments = .ok options ∧
      parse others = .ok options := by
  intro arguments others options
  obtain ⟨-, -, hreorder⟩ := parse_inAnyOrder arguments
  have hperm : arguments.Perm others := by decide
  have htrigger : arguments.filter isTrigger = others.filter isTrigger := by decide
  have hcase : arguments.filter isCase = others.filter isCase := by decide
  have hparse : parse arguments = .ok options := by decide
  exact ⟨hperm, htrigger, hcase, hparse, (hreorder others hperm htrigger hcase options).2 hparse⟩

/-- Which fault a refusal names is a matter of order: of two unknown options it is the first one. -/
theorem parse_ne_of_perm_refused :
    let arguments := ["--verbose", "--quiet", "a.nick"]
    let others := ["--quiet", "--verbose", "a.nick"]
    arguments.Perm others ∧ arguments.filter isTrigger = others.filter isTrigger ∧
      arguments.filter isCase = others.filter isCase ∧
      parse arguments = .error (.unknownOption "--verbose") ∧
      parse others = .error (.unknownOption "--quiet") ∧ parse others ≠ parse arguments := by
  intro arguments others
  have hfirst : parse arguments = .error (.unknownOption "--verbose") := by decide
  have hsecond : parse others = .error (.unknownOption "--quiet") := by decide
  refine ⟨by decide, by decide, by decide, hfirst, hsecond, ?_⟩
  rw [hfirst, hsecond]
  decide

end ReadOptions

end AliasReader
