import AliasReader.Proofs.Reader.Progress
import AliasReader.Proofs.Source.Course

/-!
# Requests of Reading to its Cursor

A reader asks its cursor for one thing after the other, and which one is next depends on what was
read before. With an ordinary table nothing is put back but a character that was taken directly
before: the trigger of a delegation, and the character behind the token of a reference. So reading
stays in the source text, not only from form to form but from request to request.

## Main definitions

* `Trail` and `Trail.upTo`: the requests that each step of reading makes;
* `Outcome.Walked`: requests lead through the source text to the cursor that a step leaves.

## Main results

* `Steps.walks_upTo`: the requests of each step lead through the source text to the cursor that the
  step leaves;
* `Reader.readForm_walked`: those of a form do.
-/

namespace AliasReader

/-! ## What is asked for -/

/-- The requests that go on from the value of a step; there are none behind any other outcome. -/
def Outcome.requestsThen {α : Type} (outcome : Outcome α)
    (next : α → Reader → List Cursor.Request) : List Cursor.Request :=
  match outcome with
  | .value result after => next result after
  | _ => []

/-- A text is taken up to its closing quote, or up to the end of the input, which is asked for as
well. -/
def textRequests (quote : Char) (cs : List Char) : List Cursor.Request :=
  match scanText quote cs with
  | some (_, count) => List.replicate count .next
  | none => List.replicate (cs.length + 1) .next

/-- The token of a reference is taken together with the character behind it, which is put back. -/
def AliasToken.requests (cursor : Cursor) : List Cursor.Request :=
  let token := cursor.remaining.takeWhile fun c => !isTerminator c
  List.replicate token.length .next ++ .next :: ((take cursor).2.peek?.map .unread).toList

/-- The requests that the steps of reading make to the cursor. -/
structure Trail where
  /-- The requests for one form. -/
  form : Reader → List Cursor.Request
  /-- The requests for the next datum. -/
  next : Reader → List Cursor.Request
  /-- The requests for all data. -/
  all : Reader → List Cursor.Request
  /-- The requests for the items of a list. -/
  items : Reader → List Cursor.Request

namespace Trail

/-- Steps that are given up at once ask for nothing. -/
def empty : Trail := ⟨fun _ => [], fun _ => [], fun _ => [], fun _ => []⟩

/-- A delegation puts the trigger back and reads the form again. -/
def delegate (trail : Trail) (fallback : ReadTable) (trigger : Char) (reader : Reader) :
    List Cursor.Request :=
  .unread trigger ::
    trail.form { reader.unread trigger with table := reader.table.rebindFrom fallback trigger }

/-- The requests of the handler of a trigger that has been read. -/
def handle (stores : Stores) (trail : Trail) (handler : Handler) (trigger : Char)
    (reader : Reader) : List Cursor.Request :=
  match handler with
  | .list => trail.items reader
  | .text => textRequests trigger reader.cursor.remaining
  | .quote => trail.next reader
  | .comment => [.skipWhile (· ≠ '\n')]
  | .sentinel store fallback =>
      if (stores store).hasAliases reader.current then AliasToken.requests reader.cursor
      else trail.delegate fallback trigger reader
  | .aliasing _ => AliasToken.requests reader.cursor
  | .delegating fallback => trail.delegate fallback trigger reader
  | .wrap => trail.form reader
  | .gather => trail.all reader
  | .expand content =>
      content.toList.reverse.map .unread ++
        trail.form (content.toList.reverse.foldl Reader.unread reader)
  | .underCase policy => trail.form { reader with table := reader.table.withCase policy }
  | .inNamespace id => trail.form { reader with current := id }
  | .close | .nothing | .constant _ | .position => []

/-- The requests for one form. -/
def readForm (stores : Stores) (trail : Trail) (reader : Reader) : List Cursor.Request :=
  let reader := reader.skipWhitespace
  .skipWhile Unicode.isWhitespace :: .peek ::
    match reader.peek? with
    | none => []
    | some c =>
        match reader.table.handler? c with
        | some handler => .next :: trail.handle stores handler c reader.advance
        | none => [.skipWhile (Reader.continuesToken reader.table)]

/-- The requests for the next datum, with those for the forms without a value that are passed
over. -/
def readNext (steps : Steps) (trail : Trail) (reader : Reader) : List Cursor.Request :=
  let reader := reader.skipWhitespace
  .skipWhile Unicode.isWhitespace :: .isAtEnd ::
    if reader.cursor.isAtEnd then []
    else trail.form reader ++ (steps.form reader).requestsThen fun
      | some _, _ => []
      | none, reader => trail.next reader

/-- The requests for all data. -/
def readAll (steps : Steps) (trail : Trail) (reader : Reader) : List Cursor.Request :=
  trail.next reader ++ (steps.next reader).requestsThen fun
    | none, _ => []
    | some _, reader => trail.all reader

/-- The requests for the items of a list. -/
def readItems (steps : Steps) (trail : Trail) (reader : Reader) : List Cursor.Request :=
  let reader := reader.skipWhitespace
  .skipWhile Unicode.isWhitespace :: .peek ::
    match reader.peek? with
    | none => []
    | some c =>
        if c = ')' then [.next]
        else trail.form reader ++
          (steps.form reader).requestsThen fun _ reader => trail.items reader

/-- The requests that are made with at most `count` calls inside each other. -/
def upTo (stores : Stores) : Nat → Trail
  | 0 => empty
  | count + 1 =>
      ⟨fun reader => readForm stores (upTo stores count) reader,
        fun reader => readNext (Steps.upTo stores count) (upTo stores count) reader,
        fun reader => readAll (Steps.upTo stores count) (upTo stores count) reader,
        fun reader => readItems (Steps.upTo stores count) (upTo stores count) reader⟩

end Trail

/-! ## Requests that lead through the source text -/

namespace Outcome

variable {α β : Type}

/-- Requests lead through the source text to the cursor that a step leaves. -/
def Walked (cursor : Cursor) (requests : List Cursor.Request) : Outcome α → Prop
  | value _ after => cursor.Walks requests after.cursor
  | failed _ after => cursor.Walks requests after.cursor
  | dangling after => cursor.Walks requests after.cursor
  | exhausted => ∃ last, cursor.Walks requests last

variable {cursor mid : Cursor} {requests before later : List Cursor.Request}
  {outcome : Outcome α}

/-- What is walked from a later cursor is walked from an earlier one. -/
theorem Walked.of_walks (h : outcome.Walked mid later) (hbefore : cursor.Walks before mid) :
    outcome.Walked cursor (before ++ later) := by
  rcases outcome with ⟨result, after⟩ | ⟨failure, after⟩ | after | _
  · exact hbefore.append h
  · exact hbefore.append h
  · exact hbefore.append h
  · obtain ⟨last, hlater⟩ := h
    exact ⟨last, hbefore.append hlater⟩

/-- Steps one after the other are walked one after the other. -/
theorem Walked.andThen {next : α → Reader → Outcome β}
    {requestsNext : α → Reader → List Cursor.Request} (h : outcome.Walked cursor requests)
    (hnext : ∀ result mid, outcome = .value result mid → mid.cursor.InSource →
      (next result mid).Walked mid.cursor (requestsNext result mid)) :
    (outcome.andThen next).Walked cursor (requests ++ outcome.requestsThen requestsNext) := by
  rcases outcome with ⟨result, mid⟩ | ⟨failure, after⟩ | after | _
  · exact (hnext result mid rfl (Cursor.Walks.inSource_last h)).of_walks h
  · exact (List.append_nil requests).symm ▸ h
  · exact (List.append_nil requests).symm ▸ h
  · exact (List.append_nil requests).symm ▸ h

/-- What goes on without a request is walked already. -/
theorem Walked.andThen_of_nil {next : α → Reader → Outcome β} (h : outcome.Walked cursor requests)
    (hnext : ∀ result mid, mid.cursor.InSource → (next result mid).Walked mid.cursor []) :
    (outcome.andThen next).Walked cursor requests := by
  rcases outcome with ⟨result, mid⟩ | ⟨failure, after⟩ | after | _
  · have hmid := (hnext result mid (Cursor.Walks.inSource_last h)).of_walks h
    rwa [List.append_nil] at hmid
  · exact h
  · exact h
  · exact h

theorem Walked.map (h : outcome.Walked cursor requests) (f : α → β) :
    (outcome.map f).Walked cursor requests :=
  h.andThen_of_nil fun _ _ hmid => .nil hmid

theorem Walked.withTable {reader : Reader} {table : ReadTable} {step : Reader → Outcome α}
    (h : (step { reader with table }).Walked cursor requests) :
    (reader.withTable table step).Walked cursor requests := by
  unfold Reader.withTable
  rcases hstep : step { reader with table } with _ | _ | _ | _
  all_goals
    rw [hstep] at h
    exact h

end Outcome

/-! ## Steps that call no other step -/

namespace Reader

variable {reader : Reader} (hplace : reader.cursor.InSource)

include hplace

theorem takeSymbol_walked :
    reader.takeSymbol.Walked reader.cursor [.skipWhile (continuesToken reader.table)] := by
  have hwalks := Cursor.walks_skipWhile hplace (continuesToken reader.table)
  unfold takeSymbol
  dsimp only
  split <;> exact hwalks

theorem takeText_walked (quote : Char) (start : Nat) :
    (reader.takeText quote start).Walked reader.cursor
      (textRequests quote reader.cursor.remaining) := by
  unfold takeText textRequests
  rcases scanText quote reader.cursor.remaining with _ | ⟨text, count⟩
  · exact Cursor.walks_end hplace
  · exact Cursor.walks_drop hplace count

/-- The character behind a token is put back directly after it was taken. -/
theorem walks_take :
    reader.cursor.Walks (AliasToken.requests reader.cursor) (AliasToken.take reader.cursor).2 := by
  have htoken := Cursor.walks_drop hplace
    (reader.cursor.remaining.takeWhile fun c => !AliasToken.isTerminator c).length
  refine htoken.append ?_
  have hbehind := htoken.inSource_last
  change (AliasToken.take reader.cursor).2.InSource at hbehind
  change (AliasToken.take reader.cursor).2.Walks _ (AliasToken.take reader.cursor).2
  generalize (AliasToken.take reader.cursor).2 = behind at hbehind
  rcases hpeek : behind.peek? with _ | c
  · -- at the end of the input the cursor stays where it is
    have hend : behind.remaining = [] := List.head?_eq_none_iff.1 hpeek
    have hwalks := Cursor.walks_end hbehind
    rw [hend] at hwalks
    exact hwalks
  · exact (Cursor.walks_next hbehind).append (Cursor.walks_unread hbehind hpeek)

omit hplace in
/-- The parenthesis behind a token is put back. -/
example : AliasToken.requests (.ofString "a:b)") =
    [.next, .next, .next, .next, .unread ')'] := rfl

theorem takeReference_walked (registry : AliasRegistry) (trigger : Char) (start : Nat) :
    (reader.takeReference registry trigger start).Walked reader.cursor
      (AliasToken.requests reader.cursor) := by
  have hwalks := walks_take hplace
  unfold takeReference
  rcases htake : AliasToken.take reader.cursor with ⟨token, cursor⟩
  rw [htake] at hwalks
  dsimp only
  split
  · split <;> exact hwalks
  · split <;> exact hwalks

end Reader

/-! ## Steps that call each other -/

namespace Steps

variable {stores : Stores} {steps : Steps} {trail : Trail}

/-- From every reader in its source, the requests of each step lead through the source text to the
cursor that the step leaves. -/
structure Walks (steps : Steps) (trail : Trail) : Prop where
  /-- A form walks through the source text. -/
  form : ∀ reader, reader.table.Ordinary → reader.cursor.InSource →
    (steps.form reader).Walked reader.cursor (trail.form reader)
  /-- A datum walks through the source text. -/
  next : ∀ reader, reader.table.Ordinary → reader.cursor.InSource →
    (steps.next reader).Walked reader.cursor (trail.next reader)
  /-- All data walk through the source text. -/
  all : ∀ reader, reader.table.Ordinary → reader.cursor.InSource →
    (steps.all reader).Walked reader.cursor (trail.all reader)
  /-- The items of a list walk through the source text. -/
  items : ∀ start reader, reader.table.Ordinary → reader.cursor.InSource →
    (steps.items start reader).Walked reader.cursor (trail.items reader)

variable (h : steps.Walks trail) {reader : Reader} (htable : reader.table.Ordinary)
  (hplace : reader.cursor.InSource)

include h htable hplace

theorem delegate_walked {fallback : ReadTable} (hfallback : fallback.Ordinary) {c : Char}
    (hpeek : reader.peek? = some c) :
    (steps.delegate fallback c reader.advance).Walked reader.advance.cursor
      (trail.delegate fallback c reader.advance) := by
  have hform := h.form { reader with table := reader.table.rebindFrom fallback c }
    (htable.rebindFrom hfallback c) hplace
  -- with the trigger put back the reader is at its place again
  rw [delegate, Trail.delegate, Reader.unread_advance hpeek]
  exact (Outcome.Walked.withTable hform).of_walks (Cursor.walks_unread hplace hpeek)

theorem handle_walked {handler : Handler} (hhandler : handler.Ordinary) {c : Char}
    (hpeek : reader.peek? = some c) (start : Nat) :
    (handle stores steps handler c start reader.advance).Walked reader.advance.cursor
      (trail.handle stores handler c reader.advance) := by
  have hplace' : reader.advance.cursor.InSource := hplace.drop 1
  cases hhandler with
  | list => exact (h.items start reader.advance htable hplace').map _
  | close => exact .nil hplace'
  | text => exact Reader.takeText_walked hplace' c start
  | quote =>
    refine (h.next reader.advance htable hplace').andThen_of_nil ?_
    intro result mid hmid
    rcases result with _ | datum <;> exact .nil hmid
  | comment => exact Cursor.walks_skipWhile hplace' _
  | aliasing store => exact Reader.takeReference_walked hplace' _ c start
  | sentinel store hfallback =>
    rw [handle, Trail.handle]
    split
    · exact Reader.takeReference_walked hplace' _ c start
    · exact delegate_walked h htable hplace hfallback hpeek
  | delegating hfallback => exact delegate_walked h htable hplace hfallback hpeek

theorem readForm_walked :
    (readForm stores steps reader).Walked reader.cursor (trail.readForm stores reader) := by
  have hskip := Cursor.walks_skipWhile hplace Unicode.isWhitespace
  have hstart := hskip.append (Cursor.walks_peek hskip.inSource_last)
  have hplace' : reader.skipWhitespace.cursor.InSource := hskip.inSource_last
  unfold readForm Trail.readForm
  dsimp only
  rcases hpeek : reader.skipWhitespace.peek? with _ | c
  · exact hstart
  · refine Outcome.Walked.of_walks ?_ hstart
    dsimp only
    rcases hhandler : reader.skipWhitespace.table.handler? c with _ | handler
    · exact (Reader.takeSymbol_walked hplace').map some
    · obtain ⟨binding, hbinding, rfl⟩ := Option.map_eq_some_iff.1 hhandler
      have hhandle := @handle_walked stores steps trail h reader.skipWhitespace htable hplace'
        _ (htable c binding hbinding) c hpeek reader.skipWhitespace.cursor.offset
      exact hhandle.of_walks (Cursor.walks_next hplace')

theorem readNext_walked (hadvances : steps.Advances) :
    (readNext steps reader).Walked reader.cursor (trail.readNext steps reader) := by
  have hskip := Cursor.walks_skipWhile hplace Unicode.isWhitespace
  have hstart := hskip.append (Cursor.walks_isAtEnd hskip.inSource_last)
  have hplace' : reader.skipWhitespace.cursor.InSource := hskip.inSource_last
  have hform := h.form reader.skipWhitespace htable hplace'
  have hleaves := hadvances.form reader.skipWhitespace htable
  unfold readNext Trail.readNext
  dsimp only
  split
  · exact hstart
  · refine (hform.andThen ?_).of_walks hstart
    intro result mid hvalue hmid
    rw [hvalue] at hleaves
    rcases result with _ | datum
    · exact h.next mid (hleaves.1.table ▸ htable) hmid
    · exact .nil hmid

theorem readAll_walked (hadvances : steps.Advances) :
    (readAll steps reader).Walked reader.cursor (trail.readAll steps reader) := by
  have hleaves := hadvances.next reader htable
  unfold readAll Trail.readAll
  refine (h.next reader htable hplace).andThen ?_
  intro result mid hvalue hmid
  rw [hvalue] at hleaves
  rcases result with _ | datum
  · exact .nil hmid
  · exact (h.all mid (hleaves.1.table ▸ htable) hmid).map _

theorem readItems_walked (hadvances : steps.Advances) (start : Nat) :
    (readItems steps start reader).Walked reader.cursor (trail.readItems steps reader) := by
  have hskip := Cursor.walks_skipWhile hplace Unicode.isWhitespace
  have hstart := hskip.append (Cursor.walks_peek hskip.inSource_last)
  have hplace' : reader.skipWhitespace.cursor.InSource := hskip.inSource_last
  have hform := h.form reader.skipWhitespace htable hplace'
  have hleaves := hadvances.form reader.skipWhitespace htable
  unfold readItems Trail.readItems
  dsimp only
  rcases reader.skipWhitespace.peek? with _ | c
  · exact hstart
  · by_cases hclose : c = ')'
    · simp only [if_pos hclose]
      exact hstart.append (Cursor.walks_next hplace')
    · simp only [if_neg hclose]
      refine (hform.andThen ?_).of_walks hstart
      intro result mid hvalue hmid
      rw [hvalue] at hleaves
      exact (h.items start mid (hleaves.1.table ▸ htable) hmid).map _

omit h htable hplace in
/-- However many calls are allowed inside each other, the requests of each step lead through the
source text to the cursor that the step leaves. -/
theorem walks_upTo (stores : Stores) (count : Nat) :
    (upTo stores count).Walks (Trail.upTo stores count) := by
  -- by induction on the calls; each step passes on a reader in its source, with the same table
  induction count with
  | zero =>
    exact ⟨fun _ _ hplace => ⟨_, .nil hplace⟩, fun _ _ hplace => ⟨_, .nil hplace⟩,
      fun _ _ hplace => ⟨_, .nil hplace⟩, fun _ _ _ hplace => ⟨_, .nil hplace⟩⟩
  | succ count ih =>
    have hadvances := advances_upTo stores count
    exact ⟨fun _ htable hplace => readForm_walked ih htable hplace,
      fun _ htable hplace => readNext_walked ih htable hplace hadvances,
      fun _ htable hplace => readAll_walked ih htable hplace hadvances,
      fun start _ htable hplace => readItems_walked ih htable hplace hadvances start⟩

end Steps

namespace Reader

/-- The requests that reading a form makes. -/
def formRequests (stores : Stores) (reader : Reader) : List Cursor.Request :=
  (Trail.upTo stores reader.allowance).form reader

/-- The requests of a form lead through the source text to the cursor that the form leaves. -/
theorem readForm_walked (stores : Stores) {reader : Reader} (htable : reader.table.Ordinary)
    (hplace : reader.cursor.InSource) :
    (reader.readForm stores).Walked reader.cursor (reader.formRequests stores) :=
  (Steps.walks_upTo stores reader.allowance).form reader htable hplace

end Reader

end AliasReader
