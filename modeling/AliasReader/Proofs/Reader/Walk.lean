import AliasReader.Reader.Form
import AliasReader.Proofs.Source.Walk

/-!
# Walks of a Reader

A reader goes on from another one when it has the same table, namespace and source text and
nothing was put in front of the input. Passing over characters is going on. What starts a form
is the first character that is no white space, and its binding says which step comes next.

## Main results

* `Reader.continues_drop`: a reader goes on behind any number of characters;
* `Steps.readForm_of_end`, `Steps.readForm_of_unbound` and `Steps.readForm_of_bound`: what a form
  is read as, by the character that it starts with.
-/

namespace AliasReader

/-! ## The characters of a text -/

theorem scanText_quote (quote : Char) (cs : List Char) :
    scanText quote (quote :: cs) = some ([], 1) := by
  cases cs <;> simp [scanText]

theorem scanText_escape {quote : Char} (hescape : ¬ '\\' = quote) (c : Char) (cs : List Char) :
    scanText quote ('\\' :: c :: cs) =
      (scanText quote cs).map fun (content, count) => (c :: content, count + 2) := by
  simp [scanText, hescape]

theorem scanText_cons {quote c : Char} (hquote : ¬ c = quote) (hescape : ¬ c = '\\')
    (cs : List Char) :
    scanText quote (c :: cs) =
      (scanText quote cs).map fun (content, count) => (c :: content, count + 1) := by
  cases cs <;> simp [scanText, hquote, hescape]

/-! ## Outcomes with a value -/

namespace Outcome

variable {α β : Type}

/-- Steps one after the other have a value when both of them have one. -/
theorem andThen_eq_value {outcome : Outcome α} {next : α → Reader → Outcome β} {result : β}
    {after : Reader} (h : outcome.andThen next = .value result after) :
    ∃ first mid, outcome = .value first mid ∧ next first mid = .value result after := by
  cases outcome with
  | value first mid => exact ⟨first, mid, rfl, h⟩
  | failed failure mid => cases h
  | dangling mid => cases h
  | exhausted => cases h

/-- What is changed on return has the value that it had before. -/
theorem onReturn_eq_value {change : Reader → Reader} {outcome : Outcome α} {result : α}
    {after : Reader} (h : outcome.onReturn change = .value result after) :
    ∃ mid, outcome = .value result mid ∧ after = change mid := by
  cases outcome with
  | value first mid =>
    cases h
    exact ⟨mid, rfl, rfl⟩
  | failed failure mid => cases h
  | dangling mid => cases h
  | exhausted => cases h

end Outcome

/-! ## Readers that go on from each other -/

namespace Reader

/-- A reader goes on from another one: it has the same table, namespace and source text, and
what remains to be read remained there. -/
structure Continues (before after : Reader) : Prop where
  /-- The table stays. -/
  table : after.table = before.table
  /-- The namespace stays. -/
  current : after.current = before.current
  /-- The source text stays. -/
  source : after.cursor.source = before.cursor.source
  /-- Nothing was put in front of the input. -/
  suffix : after.cursor.remaining <:+ before.cursor.remaining

/-- The number of characters still to be read. -/
def size (reader : Reader) : Nat := reader.cursor.remaining.length

theorem Continues.trans {first second third : Reader} (h : first.Continues second)
    (h' : second.Continues third) : first.Continues third :=
  ⟨h'.table.trans h.table, h'.current.trans h.current, h'.source.trans h.source,
    h'.suffix.trans h.suffix⟩

theorem Continues.size_le {before after : Reader} (h : before.Continues after) :
    after.size ≤ before.size :=
  h.suffix.length_le

/-- A reader that passes over characters goes on, whatever symbols it makes. -/
theorem continues_drop (reader : Reader) (count : Nat) (host : SymbolTable) :
    reader.Continues ⟨reader.cursor.drop count, reader.table, host, reader.current⟩ :=
  ⟨rfl, rfl, reader.cursor.source_drop count, by
    rw [Cursor.remaining_drop]
    exact List.drop_suffix _ _⟩

theorem continues_skipWhitespace (reader : Reader) : reader.Continues reader.skipWhitespace :=
  reader.continues_drop _ reader.host

theorem continues_advance (reader : Reader) : reader.Continues reader.advance :=
  reader.continues_drop 1 reader.host

theorem size_advance {reader : Reader} {c : Char} (h : reader.peek? = some c) :
    reader.advance.size + 1 = reader.size := by
  have hremaining := Cursor.remaining_of_peek? h
  have htail : reader.advance.size = reader.cursor.remaining.tail.length := by
    rw [size, advance, Cursor.remaining_advance]
  rw [htail, size, hremaining]
  rfl

/-- Putting back the character that was read restores the reader. -/
theorem unread_advance {reader : Reader} {c : Char} (h : reader.peek? = some c) :
    reader.advance.unread c = reader := by
  rw [unread, advance, Cursor.unread_advance h]

/-- A reader before a character that is no white space stays where it is. -/
theorem skipWhitespace_eq_self {reader : Reader}
    (h : ∀ c ∈ reader.peek?, Unicode.isWhitespace c = false) : reader.skipWhitespace = reader := by
  rw [skipWhitespace, Cursor.skipWhile_eq_self h]

/-- A reader before a form stays where it is. -/
theorem skipWhitespace_of_peek? {reader : Reader} {c : Char} (hpeek : reader.peek? = some c)
    (hwhite : Unicode.isWhitespace c = false) : reader.skipWhitespace = reader := by
  refine skipWhitespace_eq_self fun d hd => ?_
  obtain rfl : c = d := Option.some.inj (hpeek.symm.trans hd)
  exact hwhite

theorem isWhitespace_of_peek? {reader : Reader} {c : Char}
    (h : reader.skipWhitespace.peek? = some c) : Unicode.isWhitespace c = false :=
  Cursor.eq_false_of_peek?_skipWhile h

theorem isAtEnd_eq_false {reader : Reader} {c : Char} (h : reader.peek? = some c) :
    reader.cursor.isAtEnd = false := by
  have hcursor : reader.cursor.peek? = some c := h
  simp [Cursor.isAtEnd, hcursor]

theorem size_pos {reader : Reader} (h : ¬ reader.cursor.isAtEnd = true) : 0 < reader.size := by
  refine List.length_pos_iff.2 fun hnil => h ?_
  rw [Cursor.isAtEnd, Cursor.peek?, hnil]
  rfl

theorem skipWhitespace_skipWhitespace (reader : Reader) :
    reader.skipWhitespace.skipWhitespace = reader.skipWhitespace :=
  skipWhitespace_eq_self fun _ hc => isWhitespace_of_peek? hc

end Reader

/-! ## What starts a form -/

namespace Steps

variable {stores : Stores} {steps : Steps} {reader : Reader}

theorem readForm_skipWhitespace :
    readForm stores steps reader.skipWhitespace = readForm stores steps reader := by
  unfold readForm
  rw [reader.skipWhitespace_skipWhitespace]

theorem readForm_of_end (hpeek : reader.skipWhitespace.peek? = none) :
    readForm stores steps reader = .value none reader.skipWhitespace := by
  unfold readForm
  simp only [hpeek]

/-- An unbound character starts a plain token. -/
theorem readForm_of_unbound {c : Char} (hpeek : reader.skipWhitespace.peek? = some c)
    (hbinding : reader.table.binding? c = none) :
    readForm stores steps reader = reader.skipWhitespace.takeSymbol.map some := by
  have hhandler : reader.skipWhitespace.table.handler? c = none :=
    Option.map_eq_none_iff.2 hbinding
  unfold readForm
  simp only [hpeek, hhandler]

/-- A bound character starts its handler. -/
theorem readForm_of_bound {c : Char} {binding : Binding Handler}
    (hpeek : reader.skipWhitespace.peek? = some c)
    (hbinding : reader.table.binding? c = some binding) :
    readForm stores steps reader =
      handle stores steps binding.handler c reader.skipWhitespace.cursor.offset
        reader.skipWhitespace.advance := by
  have hhandler : reader.skipWhitespace.table.handler? c = some binding.handler :=
    Option.map_eq_some_iff.2 ⟨binding, hbinding, rfl⟩
  unfold readForm
  simp only [hpeek, hhandler]

end Steps

end AliasReader
