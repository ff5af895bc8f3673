import AliasReader.Reader.Sentinel
import AliasReader.Proofs.Alias.Registration
import AliasReader.Proofs.Alias.Visibility
import AliasReader.Proofs.Reader.Walk

/-!
# Reading Registered Aliases

A reference behind the trigger of a sentinel is read in three steps: the token is taken up to
the next terminator, it is folded, and it is resolved by the aliases of the current namespace.
For an alias that was registered, the outcome depends only on the symbol of the name in the
namespace that the alias was last registered for.

## Main results

* `AliasToken.take_eq`: a token goes up to the next terminator;
* `Reader.takeReference_eq`: the token behind a trigger is read as the verdict on it says;
* `Reader.reads_registered`: what is read for a reference by a registered alias.
-/

namespace AliasReader

/-- Characters without a terminator, in front of a terminator or of the end, are taken as the
token. -/
theorem AliasToken.take_eq {cursor : Cursor} {token rest : List Char}
    (hremaining : cursor.remaining = token ++ rest)
    (htoken : ∀ c ∈ token, isTerminator c = false)
    (hrest : ∀ c ∈ rest.head?, isTerminator c = true) :
    take cursor = (⟨String.ofList token, (cursor.drop token.length).spanFrom cursor.offset⟩,
      cursor.drop token.length) := by
  have htake := @Cursor.takeWhile_of_append _ (fun c => !isTerminator c) _ _ hremaining
    (fun c hc => by simp [htoken c hc]) (fun c hc => by simp [hrest c hc])
  rw [take, htake]

namespace Reference

/-- A reference stands in front of a cursor: its written form follows the trigger and goes up to
a terminator or to the end. -/
structure WrittenAt (reference : Reference) (trigger : Char) (cursor : Cursor)
    (rest : List Char) : Prop where
  /-- The trigger and the written form are the next characters. -/
  remaining : cursor.remaining = trigger :: (reference.write ++ rest)
  /-- The written form has no terminator. -/
  clean : ∀ c ∈ reference.write, AliasToken.isTerminator c = false
  /-- A terminator follows unless the input ends. -/
  stops : ∀ c ∈ rest.head?, AliasToken.isTerminator c = true

/-- The token of a written reference is its written form. -/
theorem WrittenAt.take_eq {reference : Reference} {trigger : Char} {cursor : Cursor}
    {rest : List Char} (h : reference.WrittenAt trigger cursor rest) :
    ∃ span, AliasToken.take cursor.advance =
      (⟨String.ofList reference.write, span⟩, cursor.drop (reference.write.length + 1)) := by
  have hremaining : cursor.advance.remaining = reference.write ++ rest := by
    rw [Cursor.remaining_advance, h.remaining, List.tail_cons]
  exact ⟨_, AliasToken.take_eq hremaining h.clean h.stops⟩

end Reference

/-- The trigger of an installed sentinel starts the sentinel. -/
theorem ReadTable.handler?_installSentinel (table : ReadTable) (trigger : Char)
    (fallback : Option ReadTable) (store : StoreId) :
    (table.installSentinel trigger fallback store).handler? trigger =
      some (.sentinel store (fallback.getD table)) := by
  rw [installSentinel, DispatchTable.handler?, DispatchTable.binding?, DispatchTable.bind,
    Dictionary.find?_insert_self]
  rfl

namespace Reader

variable {stores : Stores}

/-- A form and the next datum are both read with this outcome. -/
def Reads (stores : Stores) (reader : Reader) (outcome : Outcome (Option (Datum SymbolId))) :
    Prop :=
  reader.readForm stores = outcome ∧ reader.readNext stores = outcome

/-- What is read for a token behind a trigger at `start`, from the verdict on it and the reader
behind it. -/
def outcomeOf (trigger : Char) (start : Nat) (token current : String) (behind : Reader) :
    Except AliasFailure SymbolId → Outcome (Option (Datum SymbolId))
  | .ok symbol => .value (some (.symbol symbol)) behind
  | .error cause =>
      .failed (.reference trigger (behind.cursor.spanFrom start) ⟨cause, token, current⟩) behind

/-- A token behind a trigger at `start` is read as the verdict on the folded token says. -/
theorem takeReference_eq {reader : Reader} {registry : AliasRegistry} {trigger : Char}
    {start : Nat} {token : AliasToken} {cursor : Cursor} {current : String}
    {verdict : Except AliasFailure SymbolId} (hhost : reader.host.WellFormed)
    (hcase : reader.table.case ≠ .invert)
    (hcurrent : reader.host.name? reader.current = some current)
    (htake : AliasToken.take reader.cursor = (token, cursor))
    (hverdict : Reference.Verdict reader.host registry reader.current
      (reader.table.case.fold token.text) verdict) :
    reader.takeReference registry trigger start =
      outcomeOf trigger start (reader.table.case.fold token.text) current { reader with cursor }
        verdict := by
  -- a policy that folds references turns no token down
  have hanswer := hverdict.resolveToken?_eq hhost hcurrent
  have hfold : token.fold reader.table.case = .ok (reader.table.case.fold token.text) :=
    AliasToken.foldText_of_ne hcase token.text
  simp only [takeReference, htake, hfold, hanswer]
  cases verdict <;> rfl

/-- What a handler makes of its trigger without reading further forms is what is read at the
trigger, if it is a datum or a failure. -/
theorem reads_of_handle {reader : Reader} {c : Char} {handler : Handler}
    {outcome : Outcome (Option (Datum SymbolId))} (hpeek : reader.peek? = some c)
    (hwhite : Unicode.isWhitespace c = false) (hhandler : reader.table.handler? c = some handler)
    (houtcome : ∀ steps, Steps.handle stores steps handler c reader.cursor.offset reader.advance =
      outcome)
    (hvalue : ∀ after, outcome ≠ .value none after) : reader.Reads stores outcome := by
  have hskip := skipWhitespace_of_peek? hpeek hwhite
  have hend := isAtEnd_eq_false hpeek
  have hform : ∀ count, (Steps.upTo stores (count + 1)).form reader = outcome := by
    intro count
    rw [← houtcome (Steps.upTo stores count)]
    simp only [Steps.upTo, Steps.readForm, hskip, hpeek, hhandler]
  -- the allowance is enough for two calls inside each other
  obtain ⟨count, hcount⟩ : ∃ count, reader.allowance = count + 1 + 1 :=
    ⟨reader.allowance - 2, by simp only [allowance, expansionAllowance]; omega⟩
  refine ⟨?_, ?_⟩
  · rw [readForm, hcount, hform]
  · have hnext : (Steps.upTo stores (count + 1 + 1)).next reader =
        Steps.readNext (Steps.upTo stores (count + 1)) reader := rfl
    rw [readNext, hcount, hnext, Steps.readNext, hskip, hend, if_neg Bool.false_ne_true, hform]
    match outcome, hvalue with
    | .value (some datum) after, _ => rfl
    | .value none after, hvalue => exact absurd rfl (hvalue after)
    | .failed failure after, _ => rfl
    | .dangling after, _ => rfl
    | .exhausted, _ => rfl

/-- A reference behind the trigger of a sentinel is read as the verdict on the folded reference
says, in a namespace with aliases. -/
theorem reads_reference {reader : Reader} {registry : AliasRegistry} {store : StoreId}
    {fallback : ReadTable} {trigger : Char} {reference : Reference} {rest : List Char}
    {current : String} {verdict : Except AliasFailure SymbolId}
    (hstore : stores store = registry) (haliases : registry.hasAliases reader.current = true)
    (hhandler : reader.table.handler? trigger = some (.sentinel store fallback))
    (hcase : reader.table.case ≠ .invert) (hwhite : Unicode.isWhitespace trigger = false)
    (hwritten : reference.WrittenAt trigger reader.cursor rest)
    (hhost : reader.host.WellFormed) (hcurrent : reader.host.name? reader.current = some current)
    (hverdict : Reference.Verdict reader.host registry reader.current
      (reader.table.case.fold (String.ofList reference.write)) verdict) :
    reader.Reads stores (outcomeOf trigger reader.cursor.offset
      (reader.table.case.fold (String.ofList reference.write)) current
      { reader with cursor := reader.cursor.drop (reference.write.length + 1) } verdict) := by
  have hpeek : reader.peek? = some trigger := by
    rw [peek?, Cursor.peek?, hwritten.remaining, List.head?_cons]
  obtain ⟨span, htake⟩ := hwritten.take_eq
  refine reads_of_handle hpeek hwhite hhandler ?_ ?_
  · intro steps
    have hadvanced : registry.hasAliases reader.advance.current = true := haliases
    rw [Steps.handle, hstore, if_pos hadvanced]
    rw [@takeReference_eq reader.advance registry trigger reader.cursor.offset _ _ _ _
      hhost hcase hcurrent htake hverdict]
    rfl
  · intro after
    cases verdict <;> simp [outcomeOf]

/-- After a registration, a folded reference by the alias points to the namespace that the alias
was last registered for. -/
theorem points_registered {policy : CasePolicy} (hpolicy : policy ≠ .invert)
    {registry : AliasRegistry} {host : SymbolTable} {ns target : NamespaceId}
    {reference : Reference} (hseparable : reference.Separable)
    (hresolve : registry.resolve host ns (policy.fold (String.ofList reference.qualifier)) =
      .ok target) :
    Reference.Points host registry ns (policy.fold (String.ofList reference.write))
      (reference.fold policy) target := by
  refine ⟨?_, ?_⟩
  · rw [CasePolicy.toList_fold, String.toList_ofList, Reference.foldChars_write hpolicy,
      Reference.parse?_write (hseparable.fold hpolicy)]
  · rw [← hresolve, CasePolicy.fold, String.toList_ofList, Reference.fold]

/-- A registered alias can be used, and it means its last registration. A reference by the alias,
which may have been registered as it is written or already folded, is read as the symbol of the
folded name in the designated namespace if that symbol is external or two colons are written.
It fails as not external if the symbol is internal and one colon is written, and as unresolved
if there is no such symbol. -/
theorem reads_registered {policy : CasePolicy} (hpolicy : policy ≠ .invert)
    (registry : AliasRegistry) (ns : NamespaceId) (before after : List (Designator × String))
    (designator : Designator) {key : String} (hlast : ∀ pair ∈ after,
      policy.fold pair.2 ≠ policy.fold key)
    {reference : Reference} (hseparable : reference.Separable)
    (hkey : key = String.ofList reference.qualifier ∨
      key = policy.fold (String.ofList reference.qualifier)) :
    ∃ registered,
      registry.register ns (before ++ (designator, key) :: after) policy = .ok registered ∧
      ∀ (stores : Stores) (store : StoreId) (table : ReadTable) (fallback : Option ReadTable)
        (trigger : Char) (cursor : Cursor) (rest : List Char) (host : SymbolTable)
        (target : NamespaceId) (current : String),
      stores store = registered → table.case = policy → Unicode.isWhitespace trigger = false →
      reference.WrittenAt trigger cursor rest → host.Reachable →
      host.find? designator = some target → host.name? ns = some current →
      let reader : Reader := ⟨cursor, table.installSentinel trigger fallback store, host, ns⟩
      let behind := { reader with cursor := cursor.drop (reference.write.length + 1) }
      let name := policy.fold (String.ofList reference.name)
      let token := policy.fold (String.ofList reference.write)
      let failure (cause : AliasFailure) : ReadFailure :=
        .reference trigger (behind.cursor.spanFrom cursor.offset) ⟨cause, token, current⟩
      behind.cursor.remaining = rest ∧ ∃ text, host.name? target = some text ∧
        (∀ symbol, host.Owns target name symbol →
          (host.visibility? symbol = some .external ∨ reference.any = true) →
          reader.Reads stores (.value (some (.symbol symbol)) behind)) ∧
        (∀ symbol, host.Owns target name symbol →
          host.visibility? symbol = some .internal → reference.any = false →
          reader.Reads stores (.failed (failure (.notExternal text name)) behind)) ∧
        ((∀ symbol, ¬ host.Owns target name symbol) →
          reader.Reads stores (.failed (failure (.unresolvedIdentifier text name)) behind)) := by
  refine ⟨_, AliasRegistry.register_eq_ok hpolicy registry ns _, ?_⟩
  intro stores store table fallback trigger cursor rest host target current hstore hcase hwhite
    hwritten hhost htarget hcurrent reader behind name token failure
  subst hcase
  -- the names and homes of the symbols can be told from the bindings of the namespaces
  have hwell := hhost.wellFormed
  -- the alias and its folded spelling are folded alike
  have hfolded : table.case.fold key = table.case.fold (String.ofList reference.qualifier) := by
    rcases hkey with rfl | rfl
    · rfl
    · exact CasePolicy.fold_fold hpolicy _
  have hresolve := AliasRegistry.resolve_registered registry ns before hlast htarget
  have hpoints := points_registered hpolicy hseparable (hfolded ▸ hresolve)
  have haliases := AliasRegistry.hasAliases_of_resolve hresolve
  rw [← hstore] at hpoints haliases
  have hhandler := table.handler?_installSentinel trigger fallback store
  -- from here on it is enough to find the verdict on the token
  have hreads : ∀ verdict, Reference.Verdict host (stores store) ns token verdict →
      reader.Reads stores (outcomeOf trigger cursor.offset token current behind verdict) := by
    intro verdict hverdict
    exact @reads_reference stores reader _ _ _ _ _ _ _ _ rfl haliases hhandler hpolicy hwhite
      hwritten hwell hcurrent hverdict
  have hname : String.ofList (reference.fold table.case).name = name := by
    simp [name, Reference.fold, CasePolicy.fold]
  obtain ⟨-, text, htext⟩ := hpoints.exists_name hwell
  refine ⟨?_, text, htext, ?_, ?_, ?_⟩
  · have hremaining : behind.cursor.remaining =
        cursor.remaining.drop (reference.write.length + 1) := cursor.remaining_drop _
    rw [hremaining, hwritten.remaining, List.drop_succ_cons, List.drop_left]
  · intro symbol howns hvisible
    rw [← hname] at howns
    refine hreads _ (.named hpoints howns fun hone => ?_)
    rcases hvisible with hexternal | hany
    · exact hexternal
    · exact absurd (hone.symm.trans hany) Bool.false_ne_true
  · intro symbol howns hinternal hany
    rw [← hname] at howns ⊢
    exact hreads _ (.hidden hpoints htext howns hinternal hany)
  · intro hnone
    rw [← hname] at hnone ⊢
    exact hreads _ (.missing hpoints htext hnone)

/-- The alias of two registrations that differ in letter case only means the second one. -/
theorem reads_registered_pub :
    ∃ registered, AliasRegistry.empty.register ⟨1⟩ [(.named "USER", "L"), (.named "LIB", "l")]
        .upcase = .ok registered ∧
      ∃ behind, behind.cursor.remaining = [')'] ∧
        Reads (fun _ => registered)
          ⟨.ofString "$l:pub)", ReadTable.standard.installSentinel '$' none ⟨0⟩,
            Reference.libraryHost, ⟨1⟩⟩
          (.value (some (.symbol ⟨0⟩)) behind) := by
  have hseparable : Reference.Separable ⟨['l'], false, ['p', 'u', 'b']⟩ :=
    ⟨by decide, 'p', ['u', 'b'], rfl, by decide⟩
  have hclean : (['l', ':', 'p', 'u', 'b'].all fun c => !AliasToken.isTerminator c) = true := by
    decide
  have hwritten : Reference.WrittenAt ⟨['l'], false, ['p', 'u', 'b']⟩ '$' (.ofString "$l:pub)")
      [')'] := ⟨by decide, by simpa [Reference.write] using hclean, by rintro _ ⟨⟩; decide⟩
  have hhost : Reference.libraryHost.Reachable := SymbolTable.Reachable.empty.performAll _
  obtain ⟨registered, hregister, hreads⟩ := @reads_registered .upcase (by decide) .empty ⟨1⟩
    [(.named "USER", "L")] [] (.named "LIB") "l" (by simp) _ hseparable (Or.inl rfl)
  obtain ⟨hremaining, text, -, hpub, -⟩ := hreads (fun _ => registered) ⟨0⟩ ReadTable.standard none
    '$' _ [')'] _ ⟨0⟩ "USER" rfl rfl (by decide) hwritten hhost (by decide) (by decide)
  exact ⟨registered, hregister, _, hremaining,
    hpub ⟨0⟩ ⟨by decide, by decide +kernel⟩ (Or.inl (by decide))⟩

end Reader

end AliasReader
