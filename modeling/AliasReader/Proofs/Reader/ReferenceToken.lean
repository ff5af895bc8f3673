import AliasReader.Proofs.Reader.AliasedReference
import AliasReader.Proofs.Source.ByteCursor

/-!
# Tokens Behind a Trigger

Behind its trigger an aliased reference is read in two parts that do not depend on each other. The
token is taken as it is written: the characters up to the next terminator, which stays, whatever
they spell. Then the token is folded and resolved, and that alone says what is read. So a reference
that fails is passed over as one that does not, and reading goes on at the terminator behind it.

## Main definitions

* `Reader.TakesToken`: what is read for a token behind a trigger, and where.

## Main results

* `Reader.exists_takesToken`: what a handler of references makes of a token.
-/

namespace AliasReader

namespace Reader

/-- A token stands behind the trigger at `start`, and `rest` behind the token. Reading the reference
in the namespace of the name `current` comes to an outcome, with the reader `behind`. -/
structure TakesToken (reader : Reader) (registry : AliasRegistry) (current : String)
    (trigger : Char) (start : Nat) (token rest : List Char)
    (outcome : Outcome (Option (Datum SymbolId))) (behind : Reader) : Prop where
  /-- Exactly the token was taken. -/
  remaining : behind.cursor.remaining = rest
  /-- The source text stays. -/
  source : behind.cursor.source = reader.cursor.source
  /-- The symbol table stays. -/
  host : behind.host = reader.host
  /-- The read table stays. -/
  table : behind.table = reader.table
  /-- The namespace stays. -/
  namespaceId : behind.current = reader.current
  /-- Under the policy `invert` the reference fails, with the token as it is written. -/
  refused : reader.table.case = .invert →
    outcome = .failed (.reference trigger (behind.cursor.spanFrom start)
      ⟨.unsupportedCase .invert, String.ofList token, current⟩) behind
  /-- Under any other policy the reference comes to what the folded token is resolved to in the
  namespace. A failure carries the folded token and the name of the namespace. -/
  resolved : reader.table.case ≠ .invert →
    let folded := reader.table.case.fold (String.ofList token)
    (∃ symbol, Reference.resolveToken? reader.host registry reader.current folded =
        some (.ok symbol) ∧ outcome = .value (some (.symbol symbol)) behind) ∨
    (∃ cause, Reference.resolveToken? reader.host registry reader.current folded =
        some (.error ⟨cause, folded, current⟩) ∧
      outcome = .failed (.reference trigger (behind.cursor.spanFrom start)
        ⟨cause, folded, current⟩) behind)
  /-- If nothing is put back and the trigger at `start` is the source character that was read last,
  the place of a failure is that of the trigger and the token in the source text. -/
  span : ∀ before, reader.cursor.pending = [] →
    reader.cursor.passed.reverse = before ++ [trigger] → start = byteLength before →
    reader.cursor.source.toList = before ++ trigger :: (token ++ rest) ∧
      behind.cursor.spanFrom start = ⟨byteLength before, byteLength (before ++ trigger :: token)⟩
  /-- What is read next starts with the terminator behind the token, if the input goes on. -/
  resumes : behind.peek? = rest.head?
  /-- In bytes the same token is taken character by character, up to a terminator that is put back,
  and the same place is reached. -/
  bytes : reader.cursor.toBytes.takeUntil AliasToken.isTerminator =
    some (token, behind.cursor.toBytes)

/-- Under the policy `invert` every token fails. -/
theorem takeReference_of_invert {reader : Reader} {registry : AliasRegistry} {trigger : Char}
    {start : Nat} {token : AliasToken} {cursor : Cursor} {current : String}
    (hcase : reader.table.case = .invert)
    (hcurrent : reader.host.name? reader.current = some current)
    (htake : AliasToken.take reader.cursor = (token, cursor)) :
    reader.takeReference registry trigger start =
      .failed (.reference trigger (cursor.spanFrom start)
        ⟨.unsupportedCase .invert, token.text, current⟩) { reader with cursor } := by
  have hfold : token.fold reader.table.case = .error (.unsupportedCase .invert) := by
    rw [hcase]
    rfl
  simp only [takeReference, htake, hfold, hcurrent]

/-- The span from a trigger to the place behind its token. -/
theorem spanFrom_trigger {cursor : Cursor} {trigger : Char} {before token rest : List Char}
    (hsource : cursor.source.toList = before ++ trigger :: (token ++ rest))
    (hremaining : cursor.remaining = rest) :
    cursor.spanFrom (byteLength before) =
      ⟨byteLength before, byteLength (before ++ trigger :: token)⟩ := by
  have hoffset : cursor.offset = byteLength (before ++ trigger :: token) := by
    rw [cursor.offset_eq, hsource, hremaining]
    simp only [byteLength_append, byteLength_cons]
    omega
  have hle : byteLength before ≤ cursor.offset := by
    rw [hoffset, byteLength_append]
    exact Nat.le_add_right _ _
  rw [Cursor.spanFrom, Nat.max_eq_left hle, hoffset]

/-- A handler of references takes exactly the token behind its trigger and resolves it, in every
state of reading in which the current namespace exists. -/
theorem exists_takesToken {reader : Reader} {token rest : List Char}
    (hhost : reader.host.Reachable) (hcurrent : reader.host.hasNamespace reader.current = true)
    (hremaining : reader.cursor.remaining = token ++ rest)
    (htoken : ∀ c ∈ token, AliasToken.isTerminator c = false)
    (hrest : ∀ c ∈ rest.head?, AliasToken.isTerminator c = true)
    (stores : Stores) (steps : Steps) (store : StoreId) (trigger : Char) (start : Nat) :
    ∃ current behind, reader.host.name? reader.current = some current ∧
      TakesToken reader (stores store) current trigger start token rest
        (steps.handle stores (.aliasing store) trigger start reader) behind := by
  obtain ⟨entry, hentry⟩ := (reader.host.hasNamespace_iff reader.current).1 hcurrent
  have hname : reader.host.name? reader.current = some entry.name := by
    rw [SymbolTable.name?, hentry]
    rfl
  have htake := AliasToken.take_eq hremaining htoken hrest
  have hbehind : (reader.cursor.drop token.length).remaining = rest := by
    rw [Cursor.remaining_drop, hremaining, List.drop_left]
  refine ⟨entry.name, { reader with cursor := reader.cursor.drop token.length }, hname, ?_⟩
  constructor
  case remaining => exact hbehind
  case source => exact reader.cursor.source_drop _
  case host => rfl
  case table => rfl
  case namespaceId => rfl
  case refused =>
    intro hcase
    exact takeReference_of_invert hcase hname htake
  case resolved =>
    intro hcase folded
    -- the folded token has a verdict, which is both its answer and what is read for it
    obtain ⟨verdict, hverdict⟩ :=
      Reference.exists_verdict hhost.wellFormed (stores store) reader.current folded
    have hanswer := hverdict.resolveToken?_eq hhost.wellFormed hname
    have houtcome : reader.takeReference (stores store) trigger start = outcomeOf _ _ _ _ _ _ :=
      takeReference_eq hhost.wellFormed hcase hname htake hverdict
    cases verdict with
    | ok symbol => exact Or.inl ⟨symbol, hanswer, houtcome⟩
    | error cause => exact Or.inr ⟨cause, hanswer, houtcome⟩
  case span =>
    intro before hpending hpassed hstart
    have hsource : reader.cursor.source.toList = before ++ trigger :: (token ++ rest) := by
      rw [Cursor.remaining, hpending, List.nil_append] at hremaining
      rw [Cursor.source, String.toList_ofList, hpassed, hremaining]
      simp
    refine ⟨hsource, ?_⟩
    rw [hstart]
    exact spanFrom_trigger ((congrArg _ (reader.cursor.source_drop _)).trans hsource) hbehind
  case resumes => rw [peek?, Cursor.peek?, hbehind]
  case bytes =>
    have htaken := reader.cursor.takeUntil_toBytes AliasToken.isTerminator
    rw [Cursor.takeWhile_of_append hremaining (fun c hc => by simp [htoken c hc])
      (fun c hc => by simp [hrest c hc])] at htaken
    exact htaken

/-- Behind letters of two bytes, a reference to a symbol that is not there fails at the bytes of its
trigger and its token, and reading goes on at the closing parenthesis. -/
theorem exists_takesToken_multibyte :
    let reader : Reader := ⟨(Cursor.ofString "(é $l:prïv)").drop 4, ReadTable.standard,
      Reference.libraryHost, ⟨1⟩⟩
    let aliases : Stores := fun _ => Reference.libraryAliases
    let failure : ReferenceFailure := ⟨.unresolvedIdentifier "LIB" "PRÏV", "L:PRÏV", "USER"⟩
    reader.host.Reachable ∧ reader.host.hasNamespace reader.current = true ∧
      reader.cursor.remaining = "l:prïv".toList ++ [')'] ∧
      ∃ behind, behind.cursor.remaining = [')'] ∧
        Steps.exhausted.handle aliases (.aliasing ⟨0⟩) '$' 4 reader =
          .failed (.reference '$' ⟨4, 12⟩ failure) behind := by
  intro reader aliases failure
  have hhost : reader.host.Reachable := SymbolTable.Reachable.empty.performAll _
  have hid : reader.host.hasNamespace reader.current = true := by decide
  have hremaining : reader.cursor.remaining = "l:prïv".toList ++ [')'] := by decide
  have htoken : ∀ c ∈ "l:prïv".toList, AliasToken.isTerminator c = false := by
    have hany : "l:prïv".toList.any AliasToken.isTerminator = false := by decide
    exact fun c hc => Bool.eq_false_iff.2 (List.any_eq_false.1 hany c hc)
  obtain ⟨current, behind, hcurrent, htakes⟩ := exists_takesToken hhost hid hremaining htoken
    (by rintro _ ⟨⟩; decide) aliases Steps.exhausted ⟨0⟩ '$' 4
  obtain ⟨-, hspan⟩ := htakes.span ['(', 'é', ' '] (by decide) (by decide) (by decide)
  have hanswer : Reference.resolveToken? reader.host Reference.libraryAliases reader.current
      (reader.table.case.fold (String.ofList "l:prïv".toList)) = some (.error failure) := by
    decide +kernel
  refine ⟨hhost, hid, hremaining, behind, htakes.remaining, ?_⟩
  rcases htakes.resolved (by decide) with ⟨symbol, hsymbol, -⟩ | ⟨cause, hcause, houtcome⟩
  · cases hsymbol.symm.trans hanswer
  · -- the failure carries the resolved token and the name of the namespace
    have hfailure := Except.error.inj (Option.some.inj (hcause.symm.trans hanswer))
    rw [houtcome, hfailure, hspan]
    rfl

end Reader

end AliasReader
