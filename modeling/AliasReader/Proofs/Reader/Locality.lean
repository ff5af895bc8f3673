import AliasReader.Proofs.Reader.Allowance
import AliasReader.Proofs.Source.Excerpt

/-!
# Locality of Reading

A form is read from a part of a text as it is read from the whole text, unless reading reaches the
end of the part. With an ordinary table no form looks behind the characters that it takes, except
for the one that ends a token, and a line break ends everything that the end of the input ends
without a failure.

## Main definitions

* `Outcome.Local`: outcomes in a part of a text and in the whole text;
* `Outcome.Overruns`: the outcomes when reading reaches the end of the part.

## Main results

* `Steps.localTo_upTo`: each step is local;
* `Reader.readForm_local`: reading a form is local.
-/

namespace AliasReader

/-! ## Readers and outcomes in a part of a text -/

/-- The first reader is in a part of a text, and the second one is at the same place of the whole
text, with the same tables and the same namespace. -/
structure Reader.Within (front tail : List Char) (part whole : Reader) : Prop where
  /-- The cursors are at the same place. -/
  cursor : Cursor.Within front tail part.cursor whole.cursor
  /-- The read tables are the same. -/
  table : whole.table = part.table
  /-- The symbol tables are the same. -/
  host : whole.host = part.host
  /-- The namespaces are the same. -/
  current : whole.current = part.current

namespace Outcome

variable {α β : Type}

/-- Reading reached the end of the part while there is text behind it. Before a line break it
came to no settled value in the part, and what it came to in the whole text, if settled, took
characters from behind the part. -/
structure Overruns (tail : List Char) (settled : α → Prop) (part whole : Outcome α) : Prop where
  /-- There is text behind the part. -/
  ne_nil : tail ≠ []
  /-- A line break would have ended a settled value. -/
  part_not_settled : tail.head? = some '\n' →
    ∀ result after, part = .value result after → ¬ settled result
  /-- A settled value takes characters from behind the part. -/
  whole_short : ∀ result after, whole = .value result after → settled result →
    after.size < tail.length

/-- The outcome of a step in a part of a text, and that of the step in the whole text. A value is
settled if its step does not go on at the end of the input. -/
inductive Local (front tail : List Char) (settled : α → Prop) : Outcome α → Outcome α → Prop
  /-- Both come to the same value at the same place. -/
  | value {result : α} {part whole : Reader} : part.Within front tail whole →
      Local front tail settled (.value result part) (.value result whole)
  /-- Both fail alike, with the places moved by the bytes in front of the part. -/
  | failed {failure : ReadFailure} {part whole : Reader} :
      whole.host = part.host → whole.current = part.current →
      Local front tail settled (.failed failure part)
        (.failed (failure.shift (byteLength front)) whole)
  /-- Both have no answer. -/
  | dangling {part whole : Reader} : whole.host = part.host → whole.current = part.current →
      Local front tail settled (.dangling part) (.dangling whole)
  /-- The step in the part is given up. -/
  | partExhausted {whole : Outcome α} : Local front tail settled .exhausted whole
  /-- The step in the whole text is given up. -/
  | wholeExhausted {part : Outcome α} : Local front tail settled part .exhausted
  /-- Reading reached the end of the part. -/
  | overrun {part whole : Outcome α} : Overruns tail settled part whole →
      Local front tail settled part whole

variable {front tail : List Char}

/-- Local steps that go on locally are local. After an overrun, the step in the part has to stay
unsettled, and the one in the whole text must not go back. -/
theorem Local.andThen {settled : α → Prop} {settled' : β → Prop} {part whole : Outcome α}
    (h : part.Local front tail settled whole) {next next' : α → Reader → Outcome β}
    (hnext : ∀ result mid mid', part = .value result mid → mid.Within front tail mid' →
      (next result mid).Local front tail settled' (next' result mid'))
    (hpart : ∀ result mid, ¬ settled result →
      ∀ last after, next result mid = .value last after → ¬ settled' last)
    (hwhole : ∀ result mid, whole = .value result mid →
      (settled result → mid.size < tail.length) →
      ∀ last after, next' result mid = .value last after → settled' last →
        after.size < tail.length) :
    (part.andThen next).Local front tail settled' (whole.andThen next') := by
  cases h with
  | value hwithin => exact hnext _ _ _ rfl hwithin
  | failed hhost hcurrent => exact .failed hhost hcurrent
  | dangling hhost hcurrent => exact .dangling hhost hcurrent
  | partExhausted => exact .partExhausted
  | wholeExhausted => exact .wholeExhausted
  | overrun h =>
    -- the first step reached the end of the part already
    refine .overrun ⟨h.ne_nil, ?_, ?_⟩
    · intro hhead last after hlast
      obtain ⟨result, mid, hresult, hlast⟩ := andThen_eq_value hlast
      exact hpart result mid (h.part_not_settled hhead result mid hresult) last after hlast
    · intro last after hlast hsettled
      obtain ⟨result, mid, hresult, hlast⟩ := andThen_eq_value hlast
      exact hwhole result mid hresult (h.whole_short result mid hresult) last after hlast hsettled

/-- A settled step stays local when its value is changed. -/
theorem Local.map {part whole : Outcome α} (h : part.Local front tail (fun _ => True) whole)
    (f : α → β) : (part.map f).Local front tail (fun _ => True) (whole.map f) := by
  refine h.andThen (fun _ _ _ _ hwithin => .value hwithin) ?_ ?_
  · intro result mid hsettled
    exact absurd trivial hsettled
  · intro result mid _ hshort last after hlast _
    cases hlast
    exact hshort trivial

/-- A run that goes on behind the part, and does not go on behind a line break, overruns it. -/
theorem overruns_of_run {p : Char → Bool} (hline : p '\n' = false)
    (hrun : ∃ c ∈ tail.head?, p c = true) {outcome outcome' : Outcome α}
    (hshort : ∀ result after, outcome' = .value result after → after.size < tail.length) :
    outcome.Overruns tail (fun _ => True) outcome' := by
  obtain ⟨c, hc, hpc⟩ := hrun
  refine ⟨?_, ?_, fun result after hresult _ => hshort result after hresult⟩
  · rintro rfl
    cases hc
  · intro hhead
    rw [hhead, Option.mem_some_iff] at hc
    rw [← hc, hline] at hpc
    cases hpc

end Outcome

/-! ## Texts -/

/-- A text that is closed is the same in front of further characters. -/
theorem scanText_append {quote : Char} {cs text : List Char} {count : Nat}
    (h : scanText quote cs = some (text, count)) (tail : List Char) :
    count ≤ cs.length ∧ scanText quote (cs ++ tail) = some (text, count) := by
  induction cs using scanText.induct quote generalizing text count with
  | case1 => cases h
  | case2 cs =>
    rw [scanText_quote] at h
    cases h
    exact ⟨by simp, scanText_quote _ _⟩
  | case3 hescape => simp [scanText, hescape] at h
  | case4 escaped rest hescape ih =>
    rw [scanText_escape hescape] at h
    obtain ⟨⟨content, more⟩, hscan, hresult⟩ := Option.map_eq_some_iff.1 h
    cases hresult
    obtain ⟨hlength, happend⟩ := ih hscan
    refine ⟨by simpa using hlength, ?_⟩
    rw [List.cons_append, List.cons_append, scanText_escape hescape, happend]
    rfl
  | case5 c rest hquote hescape ih =>
    rw [scanText_cons hquote hescape] at h
    obtain ⟨⟨content, more⟩, hscan, hresult⟩ := Option.map_eq_some_iff.1 h
    cases hresult
    obtain ⟨hlength, happend⟩ := ih hscan
    refine ⟨by simpa using hlength, ?_⟩
    rw [List.cons_append, scanText_cons hquote hescape, happend]
    rfl

/-- A closed text takes a character at least, its closing quote. -/
theorem scanText_pos {quote : Char} {cs text : List Char} {count : Nat}
    (h : scanText quote cs = some (text, count)) : 0 < count := by
  cases cs using scanText.fun_cases quote with
  | case1 => cases h
  | case2 rest =>
    rw [scanText_quote] at h
    cases h
    exact Nat.one_pos
  | case3 hescape => simp [scanText, hescape] at h
  | case4 c rest hescape =>
    rw [scanText_escape hescape] at h
    obtain ⟨_, -, hresult⟩ := Option.map_eq_some_iff.1 h
    cases hresult
    exact Nat.succ_pos _
  | case5 c rest hquote hescape =>
    rw [scanText_cons hquote hescape] at h
    obtain ⟨_, -, hresult⟩ := Option.map_eq_some_iff.1 h
    cases hresult
    exact Nat.succ_pos _

/-- A text that is not closed takes all characters, and some of the further ones. -/
theorem length_lt_of_scanText_append {quote : Char} {cs tail text : List Char} {count : Nat}
    (h : scanText quote cs = none) (htail : scanText quote (cs ++ tail) = some (text, count)) :
    cs.length < count := by
  induction cs using scanText.induct quote generalizing text count with
  | case1 => exact scanText_pos htail
  | case2 cs =>
    rw [scanText_quote] at h
    cases h
  | case3 hescape =>
    cases tail with
    | nil => simp [scanText, hescape] at htail
    | cons c tail =>
      rw [List.singleton_append, scanText_escape hescape] at htail
      obtain ⟨⟨content, more⟩, -, hresult⟩ := Option.map_eq_some_iff.1 htail
      cases hresult
      simp
  | case4 escaped rest hescape ih =>
    rw [scanText_escape hescape] at h
    rw [List.cons_append, List.cons_append, scanText_escape hescape] at htail
    obtain ⟨⟨content, more⟩, hscan, hresult⟩ := Option.map_eq_some_iff.1 htail
    cases hresult
    have hlength := ih (Option.map_eq_none_iff.1 h) hscan
    simpa using hlength
  | case5 c rest hquote hescape ih =>
    rw [scanText_cons hquote hescape] at h
    rw [List.cons_append, scanText_cons hquote hescape] at htail
    obtain ⟨⟨content, more⟩, hscan, hresult⟩ := Option.map_eq_some_iff.1 htail
    cases hresult
    have hlength := ih (Option.map_eq_none_iff.1 h) hscan
    simpa using hlength

namespace Reader

variable {front tail : List Char} {part whole : Reader} (h : part.Within front tail whole)

include h

theorem Within.advance {c : Char} (hpeek : part.peek? = some c) :
    Within front tail part.advance whole.advance :=
  ⟨h.cursor.advance hpeek, h.table, h.host, h.current⟩

/-- Readers in front of a form of the part pass over the same white space. -/
theorem Within.skipWhitespace (hend : part.skipWhitespace.cursor.isAtEnd = false) :
    Within front tail part.skipWhitespace whole.skipWhitespace := by
  rcases h.cursor.skipWhile Unicode.isWhitespace with ⟨-, hcursor⟩ | ⟨-, hnil, -⟩
  · exact ⟨hcursor, h.table, h.host, h.current⟩
  · have hpeek : part.skipWhitespace.cursor.isAtEnd = true := Cursor.isAtEnd_of_remaining hnil
    rw [hpeek] at hend
    cases hend

/-- Where only white space remains of the part, the other reader is at the end of the part or
behind it. -/
theorem Within.size_skipWhitespace_le (hend : part.skipWhitespace.cursor.isAtEnd = true) :
    whole.skipWhitespace.size ≤ tail.length := by
  rcases h.cursor.skipWhile Unicode.isWhitespace with ⟨-, hcursor⟩ | ⟨-, -, hshort⟩
  · have hremaining : whole.skipWhitespace.cursor.remaining =
        part.skipWhitespace.cursor.remaining ++ tail := hcursor.remaining
    rw [Cursor.remaining_of_isAtEnd hend, List.nil_append] at hremaining
    exact Nat.le_of_eq (congrArg List.length hremaining)
  · exact Nat.le_of_lt hshort

/-- Without text behind the part both readers come to the end of the input. -/
theorem Within.skipWhitespace_of_nil (htail : tail = []) :
    Within front tail part.skipWhitespace whole.skipWhitespace := by
  rcases h.cursor.skipWhile Unicode.isWhitespace with ⟨-, hcursor⟩ | ⟨-, -, hshort⟩
  · exact ⟨hcursor, h.table, h.host, h.current⟩
  · rw [htail] at hshort
    exact absurd hshort (Nat.not_lt_zero _)

/-- A step under another table is local if it is so from the readers with that table. -/
theorem Within.withTable {α : Type} {settled : α → Prop} {table : ReadTable}
    {step step' : Reader → Outcome α}
    (hstep : (step { part with table }).Local front tail settled (step' { whole with table })) :
    (part.withTable table step).Local front tail settled (whole.withTable table step') := by
  unfold Reader.withTable
  generalize step { part with table } = outcome at hstep
  generalize step' { whole with table } = outcome' at hstep
  cases hstep with
  | value hwithin => exact .value ⟨hwithin.cursor, h.table, hwithin.host, hwithin.current⟩
  | failed hhost hcurrent => exact .failed hhost hcurrent
  | dangling hhost hcurrent => exact .dangling hhost hcurrent
  | partExhausted => exact .partExhausted
  | wholeExhausted => exact .wholeExhausted
  | overrun hoverrun =>
    refine .overrun ⟨hoverrun.ne_nil, ?_, ?_⟩
    · intro hhead result after hresult
      obtain ⟨mid, hmid, -⟩ := Outcome.onReturn_eq_value hresult
      exact hoverrun.part_not_settled hhead result mid hmid
    · intro result after hresult hsettled
      obtain ⟨mid, hmid, rfl⟩ := Outcome.onReturn_eq_value hresult
      exact hoverrun.whole_short result mid hmid hsettled

/-! ## Steps that call no other step -/

theorem takeSymbol_local :
    part.takeSymbol.Local front tail (fun _ => True) whole.takeSymbol := by
  -- a line break ends a token under every table
  have hline : continuesToken part.table '\n' = false := by
    have hwhite : Unicode.isWhitespace '\n' = true := by decide
    simp [continuesToken, hwhite]
  unfold takeSymbol
  simp only [Cursor.takeWhile, h.table, h.host, h.current]
  rcases h.cursor.skipWhile (continuesToken part.table) with
    ⟨htoken, hcursor⟩ | ⟨hrun, -, hshort⟩
  · rw [htoken]
    split
    · exact .value ⟨hcursor, rfl, rfl, rfl⟩
    · exact .dangling rfl rfl
  · refine .overrun (Outcome.overruns_of_run hline hrun ?_)
    intro result after hresult
    split at hresult
    · cases hresult
      exact hshort
    · cases hresult

theorem takeText_local (quote : Char) (start : Nat) :
    (part.takeText quote start).Local front tail (fun _ => True)
      (whole.takeText quote (start + byteLength front)) := by
  unfold takeText
  rw [h.cursor.remaining]
  cases hscan : scanText quote part.cursor.remaining with
  | some scanned =>
    obtain ⟨text, count⟩ := scanned
    obtain ⟨hcount, hwhole⟩ := scanText_append hscan tail
    rw [hwhole]
    exact .value ⟨h.cursor.drop hcount, h.table, h.host, h.current⟩
  | none =>
    by_cases htail : tail = []
    · -- both texts end inside the quoted one
      subst htail
      have hdrop := h.cursor.drop (Nat.le_refl part.cursor.remaining.length)
      rw [List.append_nil, hscan]
      simp only [hdrop.spanFrom start]
      exact .failed h.host h.current
    · refine .overrun ⟨htail, fun _ result after hresult => ?_, ?_⟩
      · cases hresult
      · intro result after hresult _
        split at hresult
        next text count hwhole =>
          cases hresult
          have hcount := length_lt_of_scanText_append hscan hwhole
          have hpos := List.length_pos_iff.2 htail
          simp only [size, Cursor.remaining_drop, h.cursor.remaining, List.length_drop,
            List.length_append]
          omega
        next => cases hresult

theorem takeReference_local (registry : AliasRegistry) (trigger : Char) (start : Nat) :
    (part.takeReference registry trigger start).Local front tail (fun _ => True)
      (whole.takeReference registry trigger (start + byteLength front)) := by
  have hline : (!AliasToken.isTerminator '\n') = false := by decide
  unfold takeReference
  simp only [AliasToken.take, AliasToken.fold, Cursor.takeWhile, h.table, h.host, h.current]
  rcases h.cursor.skipWhile fun c => !AliasToken.isTerminator c with
    ⟨htoken, hcursor⟩ | ⟨hrun, -, hshort⟩
  · rw [htoken, hcursor.spanFrom start]
    split
    · split
      · exact .failed rfl rfl
      · exact .dangling rfl rfl
    · split
      · exact .value ⟨hcursor, rfl, rfl, rfl⟩
      · exact .failed rfl rfl
      · exact .dangling rfl rfl
  · refine .overrun (Outcome.overruns_of_run hline hrun ?_)
    intro result after hresult
    split at hresult
    · split at hresult <;> cases hresult
    · split at hresult
      · cases hresult
        exact hshort
      · cases hresult
      · cases hresult

end Reader

/-! ## Steps that call each other

Locality is carried over from the steps that are called to those that call them. The table is
ordinary: a handler that reads to the end of the input would see more of the whole text. -/

namespace Steps

/-- The steps in a part of a text and those in the whole text come to local outcomes. A form is
asked for only where there is one in the part. -/
structure LocalTo (front tail : List Char) (first second : Steps) : Prop where
  /-- Forms are local. -/
  form : ∀ part whole, part.Within front tail whole → part.table.Ordinary →
    part.skipWhitespace.cursor.isAtEnd = false →
    (first.form part).Local front tail (fun _ => True) (second.form whole)
  /-- The next datum is local. That there is none is not settled. -/
  next : ∀ part whole, part.Within front tail whole → part.table.Ordinary →
    (first.next part).Local front tail (fun result => result.isSome = true) (second.next whole)
  /-- The items of a list are local. -/
  items : ∀ start part whole, part.Within front tail whole → part.table.Ordinary →
    (first.items start part).Local front tail (fun _ => True)
      (second.items (start + byteLength front) whole)

variable {stores : Stores} {front tail : List Char} {first second : Steps}
  (h : LocalTo front tail first second) {part whole : Reader}
  (hwithin : part.Within front tail whole) (htable : part.table.Ordinary)

include h hwithin htable

theorem delegate_local {fallback : ReadTable} (hfallback : fallback.Ordinary) {c : Char}
    (hpeek : part.peek? = some c) (hwhite : Unicode.isWhitespace c = false) :
    (first.delegate fallback c part.advance).Local front tail (fun _ => True)
      (second.delegate fallback c whole.advance) := by
  have hpeek' : whole.peek? = some c := hwithin.cursor.peek? hpeek
  -- both readers put the trigger back and read the form there with the combined table
  rw [delegate, delegate, Reader.unread_advance hpeek, Reader.unread_advance hpeek']
  have htable' : whole.advance.table = part.advance.table := hwithin.table
  rw [htable']
  refine hwithin.withTable (h.form _ _ ⟨hwithin.cursor, rfl, hwithin.host, hwithin.current⟩
    (htable.rebindFrom hfallback c) ?_)
  -- the form starts at the trigger again
  have hstay := Reader.skipWhitespace_of_peek? hpeek hwhite
  have hcursor : Reader.cursor
      (Reader.skipWhitespace { part with table := part.advance.table.rebindFrom fallback c }) =
        part.skipWhitespace.cursor := rfl
  rw [hcursor, hstay]
  exact Reader.isAtEnd_eq_false hpeek

/-- An ordinary handler reads locally. -/
theorem handle_local {handler : Handler} (hhandler : handler.Ordinary) {c : Char}
    (hpeek : part.peek? = some c) (hwhite : Unicode.isWhitespace c = false) (start : Nat) :
    (handle stores first handler c start part.advance).Local front tail (fun _ => True)
      (handle stores second handler c (start + byteLength front) whole.advance) := by
  have hbehind := hwithin.advance hpeek
  have hbehindTable : part.advance.table.Ordinary := htable
  cases hhandler with
  | list => exact (h.items start _ _ hbehind hbehindTable).map _
  | close =>
    rw [handle, handle, hbehind.cursor.spanFrom start]
    exact .failed hbehind.host hbehind.current
  | text => exact Reader.takeText_local hbehind c start
  | quote =>
    rw [handle, handle]
    refine (h.next _ _ hbehind hbehindTable).andThen ?_ ?_ ?_
    · intro result mid mid' _ hmid
      cases result with
      | some datum => exact .value hmid
      | none =>
        simp only [hmid.cursor.spanFrom start]
        exact .failed hmid.host hmid.current
    · -- at the end of the part the quote has nothing to quote
      intro result mid hnone last after hlast
      cases result with
      | some datum => exact absurd rfl hnone
      | none => cases hlast
    · intro result mid _ hshort last after hlast _
      cases result with
      | some datum =>
        cases hlast
        exact hshort rfl
      | none => cases hlast
  | comment =>
    have hline : decide ('\n' ≠ '\n') = false := by decide
    rw [handle, handle]
    rcases hbehind.cursor.skipWhile (· ≠ '\n') with ⟨-, hcursor⟩ | ⟨hrun, -, hshort⟩
    · exact .value ⟨hcursor, hbehind.table, hbehind.host, hbehind.current⟩
    · refine .overrun (Outcome.overruns_of_run hline hrun ?_)
      intro result after hresult
      cases hresult
      exact hshort
  | aliasing store => exact Reader.takeReference_local hbehind _ c start
  | sentinel store hfallback =>
    have hcurrent : whole.advance.current = part.advance.current := hwithin.current
    rw [handle, handle, hcurrent]
    split
    · exact Reader.takeReference_local hbehind _ c start
    · exact delegate_local h hwithin htable hfallback hpeek hwhite
  | delegating hfallback => exact delegate_local h hwithin htable hfallback hpeek hwhite

theorem readForm_local (hend : part.skipWhitespace.cursor.isAtEnd = false) :
    (readForm stores first part).Local front tail (fun _ => True)
      (readForm stores second whole) := by
  have hskip := hwithin.skipWhitespace hend
  cases hpeek : part.skipWhitespace.peek? with
  | none =>
    have hnone : part.skipWhitespace.cursor.peek? = none := hpeek
    rw [Cursor.isAtEnd, hnone] at hend
    cases hend
  | some c =>
    have hwhite := Reader.isWhitespace_of_peek? hpeek
    have hpeek' : whole.skipWhitespace.peek? = some c := hskip.cursor.peek? hpeek
    cases hbinding : part.table.binding? c with
    | none =>
      have hbinding' : whole.table.binding? c = none := hwithin.table ▸ hbinding
      rw [readForm_of_unbound hpeek hbinding, readForm_of_unbound hpeek' hbinding']
      exact (Reader.takeSymbol_local hskip).map some
    | some binding =>
      have hbinding' : whole.table.binding? c = some binding := hwithin.table ▸ hbinding
      rw [readForm_of_bound hpeek hbinding, readForm_of_bound hpeek' hbinding',
        hskip.cursor.offset]
      exact handle_local h hskip htable (htable c binding hbinding) hpeek hwhite _

omit h hwithin htable in
theorem readNext_skipWhitespace (steps : Steps) (reader : Reader) :
    readNext steps reader.skipWhitespace = readNext steps reader := by
  unfold readNext
  rw [reader.skipWhitespace_skipWhitespace]

omit h hwithin htable in
theorem readItems_skipWhitespace (steps : Steps) (start : Nat) (reader : Reader) :
    readItems steps start reader.skipWhitespace = readItems steps start reader := by
  unfold readItems
  rw [reader.skipWhitespace_skipWhitespace]

variable (hfirst : first.Advances) (hsecond : second.Advances)

include hfirst hsecond

theorem readNext_local :
    (readNext first part).Local front tail (fun result => result.isSome = true)
      (readNext second whole) := by
  have htable' : whole.table.Ordinary := hwithin.table ▸ htable
  cases hend : part.skipWhitespace.cursor.isAtEnd with
  | true =>
    have hpart : readNext first part = .value none part.skipWhitespace := by
      simp only [readNext, hend, if_true]
    rw [hpart]
    by_cases htail : tail = []
    · have hskip := hwithin.skipWhitespace_of_nil htail
      have hend' : whole.skipWhitespace.cursor.isAtEnd = true := by
        refine Cursor.isAtEnd_of_remaining ?_
        rw [hskip.cursor.remaining, Cursor.remaining_of_isAtEnd hend, htail, List.append_nil]
      simp only [readNext, hend', if_true]
      exact .value hskip
    · -- a datum of the whole text stands behind the part
      refine .overrun ⟨htail, fun _ result after hresult => ?_, ?_⟩
      · cases hresult
        exact Bool.false_ne_true
      · intro result after hresult hsome
        have hleaves := @readNext_leaves second hsecond whole.skipWhitespace htable'
        rw [readNext_skipWhitespace, hresult] at hleaves
        have hused := hleaves.2
        have hbehind := hwithin.size_skipWhitespace_le hend
        simp only [hsome, if_true] at hused
        omega
  | false =>
    have hskip := hwithin.skipWhitespace hend
    obtain ⟨c, hpeek⟩ := Cursor.exists_peek?_of_isAtEnd hend
    have hend' := Reader.isAtEnd_eq_false (hskip.cursor.peek? hpeek)
    have hform := hfirst.form part.skipWhitespace htable
    have hform' := hsecond.form whole.skipWhitespace htable'
    simp only [readNext, hend, hend', Bool.false_eq_true, if_false]
    refine (h.form _ _ hskip htable (by rwa [part.skipWhitespace_skipWhitespace])).andThen
      ?_ ?_ ?_
    · intro result mid mid' hmid hmidWithin
      rw [hmid] at hform
      cases result with
      | some datum => exact .value hmidWithin
      | none => exact h.next mid mid' hmidWithin (hform.1.table ▸ htable)
    · intro result mid hsettled
      exact absurd trivial hsettled
    · intro result mid hmid hshort last after hlast _
      have hbehind := hshort trivial
      rw [hmid] at hform'
      cases result with
      | some datum =>
        cases hlast
        exact hbehind
      | none =>
        have hlast : second.next mid = .value last after := hlast
        have hnext := hsecond.next mid (hform'.1.table ▸ htable')
        rw [hlast] at hnext
        have hused := hnext.1.size_le
        omega

theorem readItems_local (start : Nat) :
    (readItems first start part).Local front tail (fun _ => True)
      (readItems second (start + byteLength front) whole) := by
  have htable' : whole.table.Ordinary := hwithin.table ▸ htable
  cases hend : part.skipWhitespace.cursor.isAtEnd with
  | true =>
    have hpeek : part.skipWhitespace.peek? = none := Option.isNone_iff_eq_none.1 hend
    have hpart : readItems first start part =
        .failed (.unterminatedList (part.skipWhitespace.cursor.spanFrom start))
          part.skipWhitespace := by
      simp only [readItems, hpeek]
    rw [hpart]
    by_cases htail : tail = []
    · have hskip := hwithin.skipWhitespace_of_nil htail
      have hpeek' : whole.skipWhitespace.peek? = none := by
        rw [Reader.peek?, Cursor.peek?, hskip.cursor.remaining, Cursor.remaining_of_isAtEnd hend,
          htail]
        rfl
      simp only [readItems, hpeek', hskip.cursor.spanFrom start]
      exact .failed hskip.host hskip.current
    · -- the list of the whole text is closed behind the part
      refine .overrun ⟨htail, fun _ result after hresult => ?_, ?_⟩
      · cases hresult
      · intro result after hresult _
        have hleaves := @readItems_leaves second hsecond whole.skipWhitespace htable'
          (start + byteLength front)
        rw [readItems_skipWhitespace, hresult] at hleaves
        have hused : after.size + 1 ≤ whole.skipWhitespace.size := hleaves.2
        have hbehind := hwithin.size_skipWhitespace_le hend
        omega
  | false =>
    have hskip := hwithin.skipWhitespace hend
    obtain ⟨c, hpeek⟩ := Cursor.exists_peek?_of_isAtEnd hend
    have hpart : part.skipWhitespace.peek? = some c := hpeek
    have hwhole : whole.skipWhitespace.peek? = some c := hskip.cursor.peek? hpeek
    have hform := hfirst.form part.skipWhitespace htable
    have hform' := hsecond.form whole.skipWhitespace htable'
    simp only [readItems, hpart, hwhole]
    split
    · exact .value (hskip.advance hpeek)
    · refine (h.form _ _ hskip htable (by rwa [part.skipWhitespace_skipWhitespace])).andThen
        ?_ ?_ ?_
      · intro result mid mid' hmid hmidWithin
        rw [hmid] at hform
        exact (h.items start mid mid' hmidWithin (hform.1.table ▸ htable)).map _
      · intro result mid hsettled
        exact absurd trivial hsettled
      · intro result mid hmid hshort last after hlast _
        have hbehind := hshort trivial
        rw [hmid] at hform'
        obtain ⟨rest, further, hrest, hlast⟩ := Outcome.andThen_eq_value hlast
        cases hlast
        have hitems := hsecond.items (start + byteLength front) mid (hform'.1.table ▸ htable')
        rw [hrest] at hitems
        have hused := hitems.1.size_le
        omega

omit h hwithin htable hfirst hsecond in
/-- However many calls are allowed on either side, the steps are local. -/
theorem localTo_upTo (stores : Stores) (front tail : List Char) (count count' : Nat) :
    LocalTo front tail (upTo stores count) (upTo stores count') := by
  -- by induction on the calls allowed in the part, for every number of calls in the whole text
  induction count generalizing count' with
  | zero =>
    exact ⟨fun _ _ _ _ _ => .partExhausted, fun _ _ _ _ => .partExhausted,
      fun _ _ _ _ _ => .partExhausted⟩
  | succ count ih =>
    cases count' with
    | zero =>
      exact ⟨fun _ _ _ _ _ => .wholeExhausted, fun _ _ _ _ => .wholeExhausted,
        fun _ _ _ _ _ => .wholeExhausted⟩
    | succ count' =>
      have hsteps := ih count'
      have hfirst := advances_upTo stores count
      have hsecond := advances_upTo stores count'
      exact ⟨fun _ _ hwithin htable hend => readForm_local hsteps hwithin htable hend,
        fun _ _ hwithin htable => readNext_local hsteps hwithin htable hfirst hsecond,
        fun start _ _ hwithin htable =>
          readItems_local hsteps hwithin htable hfirst hsecond start⟩

end Steps

/-! ## Reading a form -/

namespace Reader

variable {stores : Stores} {front tail : List Char} {part whole : Reader}
  (h : part.Within front tail whole) (htable : part.table.Ordinary)
  (hend : part.skipWhitespace.cursor.isAtEnd = false)

include h htable hend

/-- Reading a form of the part is local. -/
theorem readForm_local :
    (part.readForm stores).Local front tail (fun _ => True) (whole.readForm stores) :=
  (Steps.localTo_upTo stores front tail part.allowance whole.allowance).form part whole h htable
    hend

end Reader

end AliasReader
