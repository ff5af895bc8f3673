import AliasReader.Proofs.Alias.Visibility
import AliasReader.Proofs.Reader.Standard

/-!
# Reading Back What Is Shown

Texts are shown with more escapes than the reader knows. In the reader a backslash only makes the
next character literal, so an escaped quote and an escaped backslash are read back as what they
were, while a short escape loses its backslash and stays a letter, and so does a code point between
braces. No escape ends the text before its closing quote, so lists, quotes and texts keep their
shape in any case.

## Main definitions

* `Quoted.readBack`: what a shown character is read back as;
* `Quoted.Legible`: the characters that are shown as themselves, or with a backslash as the only
  addition;
* `Datum.mapTexts` and `Datum.shape`: a datum with other texts, and with none.

## Main results

* `Quoted.scanText_shown`: a shown text is scanned up to its own closing quote;
* `Quoted.readBackText_eq_self_iff`: a text is read back unchanged when it is legible;
* `Datum.form_written`: written data without symbols are read form by form;
* `Reader.readAll_show?`: the shown form of a datum without symbols is read back to one datum of the
  same shape.
-/

namespace AliasReader

/-! ## Shown characters -/

namespace Quoted

/-- What a character is read back as when it was shown between double quotes. The reader drops the
backslash of an escape. -/
def readBack (c : Char) : List Char :=
  match escape '"' c with
  | '\\' :: rest => rest
  | shown => shown

/-- What a text is read back as when it was shown. -/
def readBackText (content : String) : String :=
  String.ofList (content.toList.flatMap readBack)

/-- A character is shown as itself, as an escaped quote or as an escaped backslash. -/
def Legible (c : Char) : Prop :=
  escape '"' c = [c] ∨ escape '"' c = ['\\', '"'] ∨ escape '"' c = ['\\', '\\']

instance : DecidablePred Legible := fun _ => inferInstanceAs (Decidable (_ ∨ _ ∨ _))

/-- The control characters that are shown by a letter of their own. -/
def lettered : List Char := ['\x00', '\t', '\r', '\n']

/-- How a character is shown between double quotes, and what that is read back as. -/
inductive Shown (c : Char) : List Char → List Char → Prop
  /-- The character stands for itself. -/
  | plain : c ≠ '"' → c ≠ '\\' → c ∉ lettered → isHidden c = false → Shown c [c] [c]
  /-- A backslash keeps the character from its part in the syntax. -/
  | marked : c = '"' ∨ c = '\\' → Shown c ['\\', c] [c]
  /-- A letter behind a backslash stands for a control character. -/
  | letter {other : Char} : other ≠ c → other ≠ '"' → other ≠ '\\' → c ∈ lettered →
      Shown c ['\\', other] [other]
  /-- The code point stands for the character. -/
  | code : c ∉ lettered → isHidden c = true →
      Shown c ('\\' :: 'u' :: '\x7b' :: (Nat.toDigits 16 c.toNat ++ ['\x7d']))
        ('u' :: '\x7b' :: (Nat.toDigits 16 c.toNat ++ ['\x7d']))

/-- Every character is shown and read back in one of these ways. -/
theorem shown (c : Char) : Shown c (escape '"' c) (readBack c) := by
  -- in the order in which an escape is chosen: letters, backslashes, code points
  by_cases hletter : c ∈ lettered
  · have hcases := hletter
    simp only [lettered, List.mem_cons, List.not_mem_nil, or_false] at hcases
    rcases hcases with rfl | rfl | rfl | rfl <;>
      exact .letter (by decide) (by decide) (by decide) hletter
  · by_cases hmarked : c = '"' ∨ c = '\\'
    · rcases hmarked with rfl | rfl
      · exact .marked (.inl rfl)
      · exact .marked (.inr rfl)
    · have hnone := hletter
      simp only [lettered, List.mem_cons, List.not_mem_nil, or_false, not_or] at hnone hmarked
      obtain ⟨h0, ht, hr, hn⟩ := hnone
      obtain ⟨hquote, hescape⟩ := hmarked
      cases hhidden : isHidden c with
      | true =>
        have hcode : escape '"' c =
            '\\' :: 'u' :: '\x7b' :: (Nat.toDigits 16 c.toNat ++ ['\x7d']) := by
          simp [escape, codePoint, h0, ht, hr, hn, hquote, hescape, hhidden]
        rw [readBack, hcode]
        exact .code hletter hhidden
      | false =>
        have hself : escape '"' c = [c] := by
          simp [escape, h0, ht, hr, hn, hquote, hescape, hhidden]
        have hback : readBack c = [c] := by
          rw [readBack, hself]
          split
          next heq => exact absurd (List.cons.inj heq).1 hescape
          next => rfl
        rw [hself, hback]
        exact .plain hquote hescape hletter hhidden

/-- The legible characters are all but the control characters with a letter of their own and those
that show nothing of their own. -/
theorem legible_iff (c : Char) : Legible c ↔ c ∉ lettered ∧ isHidden c = false := by
  have hshown := shown c
  unfold Legible
  generalize escape '"' c = written, readBack c = back at hshown
  cases hshown with
  | plain _ _ hletter hvisible => simp [hletter, hvisible]
  | marked hmarked => rcases hmarked with rfl | rfl <;> decide
  | letter hne hquote hescape hletter => simp [hletter, hquote, hescape]
  | code _ hhidden => simp [hhidden]

/-- A combining mark is shown by its code point, an accented letter as itself. -/
example : ¬ Legible '\u0301' ∧ Legible '\u00e9' := by decide

/-- Exactly the legible characters are read back unchanged. -/
theorem readBack_eq_singleton_iff (c : Char) : readBack c = [c] ↔ Legible c := by
  have hshown := shown c
  unfold Legible
  generalize escape '"' c = written, readBack c = back at hshown ⊢
  cases hshown with
  | plain => simp
  | marked hmarked => rcases hmarked with rfl | rfl <;> simp
  | letter hne hquote hescape => simp [hne, hquote, hescape]
  | code => simp

theorem length_readBack_pos (c : Char) : 0 < (readBack c).length := by
  have hshown := shown c
  generalize escape '"' c = written, readBack c = back at hshown ⊢
  cases hshown <;> simp

/-- A text is read back unchanged exactly when all its characters are legible. -/
theorem flatMap_readBack_eq_self_iff (cs : List Char) :
    cs.flatMap readBack = cs ↔ ∀ c ∈ cs, Legible c := by
  have hlength : ∀ cs : List Char, cs.length ≤ (cs.flatMap readBack).length := by
    intro cs
    induction cs with
    | nil => exact Nat.le_refl 0
    | cons c cs ih =>
      have hpos := length_readBack_pos c
      rw [List.flatMap_cons, List.length_append, List.length_cons]
      omega
  induction cs with
  | nil => simp
  | cons c cs ih =>
    rw [List.forall_mem_cons, List.flatMap_cons]
    constructor
    · intro h
      -- every character is read back as one at least, so here the first one is read back alone
      have hrest := hlength cs
      have hpos := length_readBack_pos c
      have htotal := congrArg List.length h
      rw [List.length_append, List.length_cons] at htotal
      obtain ⟨d, hd⟩ := List.length_eq_one_iff.1 (by omega : (readBack c).length = 1)
      rw [hd, List.singleton_append] at h
      obtain ⟨rfl, hcs⟩ := List.cons.inj h
      exact ⟨(readBack_eq_singleton_iff d).1 hd, ih.1 hcs⟩
    · rintro ⟨hc, hcs⟩
      rw [(readBack_eq_singleton_iff c).2 hc, ih.2 hcs, List.singleton_append]

theorem readBackText_eq_self_iff (content : String) :
    readBackText content = content ↔ ∀ c ∈ content.toList, Legible c := by
  rw [← flatMap_readBack_eq_self_iff, readBackText, ← String.toList_inj, String.toList_ofList]

/-! ## Scanning a shown text -/

/-- A hexadecimal digit is neither a quote nor a backslash. -/
theorem ne_of_mem_toDigits {n : Nat} {c : Char} (h : c ∈ Nat.toDigits 16 n) :
    c ≠ '"' ∧ c ≠ '\\' := by
  have hdigit : ∀ d < 16, Nat.digitChar d ≠ '"' ∧ Nat.digitChar d ≠ '\\' := by decide
  induction n using Nat.strongRecOn with
  | ind n ih =>
    rw [Nat.toDigits_eq_if (by decide)] at h
    split at h
    next hless =>
      rw [List.mem_singleton.1 h]
      exact hdigit n hless
    next hle =>
      rcases List.mem_append.1 h with h | h
      · exact ih (n / 16) (by omega) h
      · rw [List.mem_singleton.1 h]
        exact hdigit (n % 16) (Nat.mod_lt n (by decide))

/-- Characters that end nothing and escape nothing are scanned as they are. -/
theorem scanText_append_of_plain {quote : Char} {cs rest content : List Char} {count : Nat}
    (hplain : ∀ c ∈ cs, c ≠ quote ∧ c ≠ '\\')
    (h : scanText quote rest = some (content, count)) :
    scanText quote (cs ++ rest) = some (cs ++ content, count + cs.length) := by
  induction cs with
  | nil => exact h
  | cons c cs ih =>
    obtain ⟨hquote, hescape⟩ := hplain c List.mem_cons_self
    rw [List.cons_append, scanText_cons hquote hescape,
      ih fun d hd => hplain d (List.mem_cons_of_mem c hd)]
    rfl

/-- A shown character is scanned as a whole, to what it is read back as. -/
theorem scanText_escape_append (c : Char) {rest content : List Char} {count : Nat}
    (h : scanText '"' rest = some (content, count)) :
    scanText '"' (escape '"' c ++ rest) =
      some (readBack c ++ content, count + (escape '"' c).length) := by
  have hbackslash : ¬ '\\' = '"' := by decide
  have hshown := shown c
  generalize escape '"' c = written, readBack c = back at hshown ⊢
  cases hshown with
  | plain hquote hescape => exact scanText_append_of_plain (by simpa using ⟨hquote, hescape⟩) h
  | marked =>
    rw [List.cons_append, List.cons_append, List.nil_append, scanText_escape hbackslash, h]
    rfl
  | letter =>
    rw [List.cons_append, List.cons_append, List.nil_append, scanText_escape hbackslash, h]
    rfl
  | code =>
    -- the letter behind the backslash is literal, and the rest of the code point plain
    have hplain : ∀ d ∈ '\x7b' :: (Nat.toDigits 16 c.toNat ++ ['\x7d']), d ≠ '"' ∧ d ≠ '\\' := by
      intro d hd
      simp only [List.mem_cons, List.mem_append, List.not_mem_nil, or_false] at hd
      rcases hd with rfl | hd | rfl
      · decide
      · exact ne_of_mem_toDigits hd
      · decide
    rw [List.cons_append, List.cons_append, scanText_escape hbackslash,
      scanText_append_of_plain hplain h]
    rfl

/-- A shown text is scanned up to its own closing quote. -/
theorem scanText_shown (cs rest : List Char) :
    scanText '"' (cs.flatMap (escape '"') ++ '"' :: rest) =
      some (cs.flatMap readBack, 1 + (cs.flatMap (escape '"')).length) := by
  induction cs with
  | nil => exact scanText_quote '"' rest
  | cons c cs ih =>
    rw [List.flatMap_cons, List.append_assoc, scanText_escape_append c ih, List.flatMap_cons,
      List.length_append, Nat.add_assoc, Nat.add_comm (escape '"' c).length]

end Quoted

/-! ## Texts in data -/

namespace Datum

variable {σ : Type}

mutual

/-- The texts of a datum, in reading order. -/
def texts : Datum σ → List String
  | symbol _ => []
  | text content => [content]
  | list items => textsOfItems items
  | quote quoted => quoted.texts

/-- The texts of a list of data, in reading order. -/
def textsOfItems : List (Datum σ) → List String
  | [] => []
  | item :: rest => item.texts ++ textsOfItems rest

end

mutual

/-- The datum with every text replaced by its image. -/
def mapTexts (f : String → String) : Datum σ → Datum σ
  | symbol s => symbol s
  | text content => text (f content)
  | list items => list (mapTextsOfItems f items)
  | quote quoted => quote (quoted.mapTexts f)

/-- The data with every text replaced by its image. -/
def mapTextsOfItems (f : String → String) : List (Datum σ) → List (Datum σ)
  | [] => []
  | item :: rest => item.mapTexts f :: mapTextsOfItems f rest

end

/-- The datum with empty texts in place of its own ones. -/
def shape (datum : Datum σ) : Datum σ := datum.mapTexts fun _ => ""

mutual

theorem mapTexts_mapTexts (f g : String → String) :
    ∀ datum : Datum σ, (datum.mapTexts f).mapTexts g = datum.mapTexts fun content => g (f content)
  | .symbol s => rfl
  | .text content => rfl
  | .list items => by
    rw [mapTexts, mapTexts, mapTexts, mapTextsOfItems_mapTextsOfItems f g items]
  | .quote quoted => by
    rw [mapTexts, mapTexts, mapTexts, mapTexts_mapTexts f g quoted]

theorem mapTextsOfItems_mapTextsOfItems (f g : String → String) :
    ∀ items : List (Datum σ), mapTextsOfItems g (mapTextsOfItems f items) =
      mapTextsOfItems (fun content => g (f content)) items
  | [] => rfl
  | item :: rest => by
    rw [mapTextsOfItems, mapTextsOfItems, mapTextsOfItems, mapTexts_mapTexts f g item,
      mapTextsOfItems_mapTextsOfItems f g rest]

end

/-- Other texts leave the shape of a datum. -/
theorem shape_mapTexts (f : String → String) (datum : Datum σ) :
    (datum.mapTexts f).shape = datum.shape :=
  mapTexts_mapTexts f _ datum

mutual

/-- Replacing the texts of a datum leaves it exactly when it leaves each of them. -/
theorem mapTexts_eq_self_iff (f : String → String) :
    ∀ datum : Datum σ, datum.mapTexts f = datum ↔ ∀ content ∈ datum.texts, f content = content
  | .symbol s => by simp [mapTexts, texts]
  | .text content => by simp [mapTexts, texts]
  | .list items => by
    rw [mapTexts, Datum.list.injEq, mapTextsOfItems_eq_self_iff f items, texts]
  | .quote quoted => by
    rw [mapTexts, Datum.quote.injEq, mapTexts_eq_self_iff f quoted, texts]

theorem mapTextsOfItems_eq_self_iff (f : String → String) :
    ∀ items : List (Datum σ), mapTextsOfItems f items = items ↔
      ∀ content ∈ textsOfItems items, f content = content
  | [] => by simp [mapTextsOfItems, textsOfItems]
  | item :: rest => by
    rw [mapTextsOfItems, List.cons.injEq, mapTexts_eq_self_iff f item,
      mapTextsOfItems_eq_self_iff f rest, textsOfItems, List.forall_mem_append]

end

end Datum

/-! ## Steps through written data -/

namespace Outcome

variable {α β : Type} {reader : Reader} {result : α}

/-- A step has a value and stops in front of `rest`, with nothing else changed. -/
def StopsBefore (outcome : Outcome α) (result : α) (reader : Reader) (rest : List Char) : Prop :=
  ∃ cursor : Cursor, cursor.remaining = rest ∧ outcome = .value result { reader with cursor }

theorem StopsBefore.andThen {outcome : Outcome α} {next : α → Reader → Outcome β} {result' : β}
    {middle rest : List Char} (h : outcome.StopsBefore result reader middle)
    (hnext : ∀ cursor : Cursor, cursor.remaining = middle →
      (next result { reader with cursor }).StopsBefore result' reader rest) :
    (outcome.andThen next).StopsBefore result' reader rest := by
  obtain ⟨cursor, hmiddle, rfl⟩ := h
  exact hnext cursor hmiddle

theorem StopsBefore.map {outcome : Outcome α} {rest : List Char}
    (h : outcome.StopsBefore result reader rest) (f : α → β) :
    (outcome.map f).StopsBefore (f result) reader rest :=
  h.andThen fun cursor hrest => ⟨cursor, hrest, rfl⟩

end Outcome

namespace Reader

/-- A shown text is taken behind its opening quote. -/
theorem takeText_shown {reader : Reader} {cs rest : List Char}
    (h : reader.cursor.remaining = cs.flatMap (Quoted.escape '"') ++ '"' :: rest) (start : Nat) :
    (reader.takeText '"' start).StopsBefore
      (some (.text (String.ofList (cs.flatMap Quoted.readBack)))) reader rest := by
  unfold takeText
  rw [h, Quoted.scanText_shown]
  refine ⟨_, ?_, rfl⟩
  rw [Cursor.remaining_drop, h, Nat.add_comm, List.drop_length_add_append]
  rfl

end Reader

namespace Steps

variable {stores : Stores} {steps : Steps} {policy : CasePolicy} {reader : Reader} {c : Char}
  {cs rest : List Char}

/-- In front of characters that do not start with white space there is nothing to pass over. -/
theorem skipWhitespace_of_remaining (h : reader.cursor.remaining = c :: cs)
    (hwhite : Unicode.isWhitespace c = false) :
    reader.peek? = some c ∧ reader.skipWhitespace = reader ∧
      reader.advance.cursor.remaining = cs := by
  have hpeek : reader.peek? = some c := by rw [Reader.peek?, Cursor.peek?, h, List.head?_cons]
  refine ⟨hpeek, Reader.skipWhitespace_of_peek? hpeek hwhite, ?_⟩
  rw [Reader.advance, Cursor.remaining_advance, h, List.tail_cons]

/-- A form with a value is the next datum. -/
theorem readNext_of_form {datum : Datum SymbolId} (h : reader.cursor.remaining = c :: cs)
    (hwhite : Unicode.isWhitespace c = false)
    (hform : (steps.form reader).StopsBefore (some datum) reader rest) :
    (readNext steps reader).StopsBefore (some datum) reader rest := by
  obtain ⟨hpeek, hskip, -⟩ := skipWhitespace_of_remaining h hwhite
  unfold readNext
  dsimp only
  rw [hskip, if_neg (by simp [Reader.isAtEnd_eq_false hpeek])]
  exact hform.andThen fun cursor hrest => ⟨cursor, hrest, rfl⟩

/-! Each lemma is about one way to write a datum, with the standard table. -/

variable (htable : reader.table = ReadTable.standard.withCase policy)

include htable

/-- In front of a bound character a form is what the handler makes of it. -/
theorem readForm_of_remaining {binding : Binding Handler} (h : reader.cursor.remaining = c :: cs)
    (hwhite : Unicode.isWhitespace c = false)
    (hbinding : (ReadTable.standard.withCase policy).binding? c = some binding) :
    readForm stores steps reader =
      handle stores steps binding.handler c reader.cursor.offset reader.advance := by
  obtain ⟨hpeek, hskip, -⟩ := skipWhitespace_of_remaining h hwhite
  rw [← htable] at hbinding
  rw [readForm_of_bound (hskip.symm ▸ hpeek) hbinding, hskip]

theorem readForm_shown (h : reader.cursor.remaining = Quoted.textChars cs ++ rest) :
    (readForm stores steps reader).StopsBefore
      (some (.text (String.ofList (cs.flatMap Quoted.readBack)))) reader rest := by
  have hquote : reader.cursor.remaining =
      '"' :: (cs.flatMap (Quoted.escape '"') ++ '"' :: rest) := by
    simpa [Quoted.textChars] using h
  obtain ⟨-, -, hadvance⟩ := skipWhitespace_of_remaining hquote (by decide)
  rw [readForm_of_remaining htable hquote (by decide) (ReadTable.binding?_standard policy '"')]
  exact reader.advance.takeText_shown hadvance _

theorem readForm_list {items : List (Datum SymbolId)} (h : reader.cursor.remaining = '(' :: cs)
    (hitems : (steps.items reader.cursor.offset reader.advance).StopsBefore items reader.advance
      rest) :
    (readForm stores steps reader).StopsBefore (some (.list items)) reader rest := by
  rw [readForm_of_remaining htable h (by decide) (ReadTable.binding?_standard policy '(')]
  exact hitems.map _

theorem readForm_quote {datum : Datum SymbolId} (h : reader.cursor.remaining = '\'' :: cs)
    (hnext : (steps.next reader.advance).StopsBefore (some datum) reader.advance rest) :
    (readForm stores steps reader).StopsBefore (some (.quote datum)) reader rest := by
  rw [readForm_of_remaining htable h (by decide) (ReadTable.binding?_standard policy '\'')]
  exact hnext.andThen fun cursor hrest => ⟨cursor, hrest, rfl⟩

omit htable in
/-- A closing parenthesis ends a list. -/
theorem readItems_close {start : Nat} (h : reader.skipWhitespace.cursor.remaining = ')' :: rest) :
    (readItems steps start reader).StopsBefore [] reader rest := by
  obtain ⟨hpeek, -, hadvance⟩ := skipWhitespace_of_remaining h (by decide)
  unfold readItems
  dsimp only
  rw [hpeek]
  exact ⟨_, hadvance, rfl⟩

omit htable in
/-- An item of a list is read in front of the further ones. -/
theorem readItems_item {start : Nat} {item : Datum SymbolId} {items : List (Datum SymbolId)}
    {middle : List Char} (h : reader.skipWhitespace.cursor.remaining = c :: cs) (hclose : c ≠ ')')
    (hform : (steps.form reader.skipWhitespace).StopsBefore (some item) reader middle)
    (hitems : ∀ cursor : Cursor, cursor.remaining = middle →
      (steps.items start { reader with cursor }).StopsBefore items reader rest) :
    (readItems steps start reader).StopsBefore (item :: items) reader rest := by
  have hpeek : reader.skipWhitespace.peek? = some c := by
    rw [Reader.peek?, Cursor.peek?, h, List.head?_cons]
  unfold readItems
  dsimp only
  rw [hpeek]
  dsimp only
  rw [if_neg hclose]
  exact hform.andThen fun cursor hmiddle => (hitems cursor hmiddle).map _

end Steps

namespace Datum

variable {f : SymbolId → Option String} {stores : Stores} {policy : CasePolicy}

/-- A datum without symbols is written with a character in front that starts a form. -/
theorem exists_write_eq_cons {datum : Datum SymbolId} {written : Datum String}
    (hplain : datum.symbols = []) (hwritten : datum.traverse? f = some written) :
    ∃ c cs, written.write = c :: cs ∧ Unicode.isWhitespace c = false ∧ c ≠ ')' := by
  cases datum with
  | symbol s => cases hplain
  | text content =>
    obtain rfl := Option.some.inj hwritten
    exact ⟨'"', _, rfl, by decide, by decide⟩
  | list items =>
    obtain ⟨shown, -, rfl⟩ := Option.map_eq_some_iff.1 hwritten
    exact ⟨'(', _, rfl, by decide, by decide⟩
  | quote quoted =>
    obtain ⟨shown, -, rfl⟩ := Option.map_eq_some_iff.1 hwritten
    exact ⟨'\'', _, rfl, by decide, by decide⟩

/-- Behind an item there is a blank, or the list has no further items. -/
theorem exists_writeItems_cons (item : Datum String) (items : List (Datum String)) :
    ∃ blank, (∀ c ∈ blank, Unicode.isWhitespace c = true) ∧
      writeItems (item :: items) = item.write ++ (blank ++ writeItems items) := by
  cases items with
  | nil => exact ⟨[], by simp, by simp [writeItems]⟩
  | cons next rest => exact ⟨[' '], List.forall_mem_singleton.2 (by decide), rfl⟩

mutual

/-- A written datum without symbols is read as a form, with its texts read back. Two calls for each
written character are enough. -/
theorem form_written :
    ∀ (datum : Datum SymbolId) (written : Datum String), datum.symbols = [] →
      datum.traverse? f = some written → ∀ (reader : Reader) (rest : List Char) (count : Nat),
      reader.table = ReadTable.standard.withCase policy →
      reader.cursor.remaining = written.write ++ rest → 2 * written.write.length ≤ count →
      ((Steps.upTo stores count).form reader).StopsBefore
        (some (datum.mapTexts Quoted.readBackText)) reader rest
  | .symbol s, _, hplain, _ => by cases hplain
  | .text content, _, _, rfl => by
    intro reader rest count htable hremaining hcount
    have hpos : 0 < (write (.text content)).length := by simp [write, Quoted.textChars]
    obtain ⟨count, rfl⟩ := Nat.exists_eq_succ_of_ne_zero (by omega : count ≠ 0)
    exact Steps.readForm_shown htable hremaining
  | .list items, written, hplain, hwritten => by
    intro reader rest count htable hremaining hcount
    obtain ⟨shown, hshown, rfl⟩ := Option.map_eq_some_iff.1 hwritten
    have hlength : (write (.list shown)).length = (writeItems shown).length + 2 := by simp [write]
    obtain ⟨count, rfl⟩ := Nat.exists_eq_succ_of_ne_zero (by omega : count ≠ 0)
    have hopening : reader.cursor.remaining = '(' :: (writeItems shown ++ ')' :: rest) := by
      simpa [write] using hremaining
    obtain ⟨-, -, hadvance⟩ := Steps.skipWhitespace_of_remaining hopening (by decide)
    -- the two parentheses allow for the call that goes to the items
    exact Steps.readForm_list htable hopening (items_written items shown hplain hshown _
      reader.advance [] rest count htable (by simp) hadvance (by omega))
  | .quote quoted, written, hplain, hwritten => by
    intro reader rest count htable hremaining hcount
    obtain ⟨shown, hshown, rfl⟩ := Option.map_eq_some_iff.1 hwritten
    have hlength : (write (.quote shown)).length = shown.write.length + 1 := by simp [write]
    have hquoted : quoted.symbols = [] := hplain
    obtain ⟨c, cs, hwrite, hwhite, -⟩ := exists_write_eq_cons hquoted hshown
    -- one call goes to the next datum and one to its form
    obtain ⟨count, rfl⟩ : ∃ fewer, count = fewer + 2 := ⟨count - 2, by omega⟩
    have hquote : reader.cursor.remaining = '\'' :: (shown.write ++ rest) := hremaining
    obtain ⟨-, -, hadvance⟩ := Steps.skipWhitespace_of_remaining hquote (by decide)
    have hhead : reader.advance.cursor.remaining = c :: (cs ++ rest) := by
      rw [hadvance, hwrite, List.cons_append]
    have hform := form_written quoted shown hquoted hshown reader.advance rest count htable
      hadvance (by omega)
    exact Steps.readForm_quote htable hquote (Steps.readNext_of_form hhead hwhite hform)

/-- The written items of a list are read with its closing parenthesis. -/
theorem items_written :
    ∀ (items : List (Datum SymbolId)) (written : List (Datum String)), symbolsOfItems items = [] →
      traverseItems? f items = some written →
      ∀ (start : Nat) (reader : Reader) (blank rest : List Char) (count : Nat),
      reader.table = ReadTable.standard.withCase policy →
      (∀ c ∈ blank, Unicode.isWhitespace c = true) →
      reader.cursor.remaining = blank ++ (writeItems written ++ ')' :: rest) →
      2 * (writeItems written).length + 1 ≤ count →
      ((Steps.upTo stores count).items start reader).StopsBefore
        (mapTextsOfItems Quoted.readBackText items) reader rest
  | [], _, _, rfl => by
    intro start reader blank rest count htable hblank hremaining hcount
    obtain ⟨count, rfl⟩ := Nat.exists_eq_succ_of_ne_zero (by omega : count ≠ 0)
    refine Steps.readItems_close ?_
    rw [Reader.skipWhitespace, Cursor.remaining_skipWhile, hremaining,
      List.dropWhile_append_of_pos hblank]
    rfl
  | item :: items, written, hplain, hwritten => by
    intro start reader blank rest count htable hblank hremaining hcount
    rw [symbolsOfItems, List.append_eq_nil_iff] at hplain
    rw [traverseItems?] at hwritten
    split at hwritten
    next first others hfirst hothers =>
      obtain rfl := Option.some.inj hwritten
      obtain ⟨c, cs, hwrite, hwhite, hclose⟩ := exists_write_eq_cons hplain.1 hfirst
      obtain ⟨gap, hgap, hitems⟩ := exists_writeItems_cons first others
      have hlength : (writeItems (first :: others)).length =
          first.write.length + (gap.length + (writeItems others).length) := by
        rw [hitems, List.length_append, List.length_append]
      -- an item has a character at least, which allows for the calls to it and to the others
      have hpos : 0 < first.write.length := by
        rw [hwrite]
        exact Nat.succ_pos _
      obtain ⟨count, rfl⟩ := Nat.exists_eq_succ_of_ne_zero (by omega : count ≠ 0)
      have hskip : reader.skipWhitespace.cursor.remaining =
          first.write ++ (gap ++ (writeItems others ++ ')' :: rest)) := by
        rw [Reader.skipWhitespace, Cursor.remaining_skipWhile, hremaining,
          List.dropWhile_append_of_pos hblank, hitems, hwrite]
        simp [hwhite]
      have hhead := hskip
      rw [hwrite, List.cons_append] at hhead
      have hform := form_written item first hplain.1 hfirst reader.skipWhitespace _ count htable
        hskip (by omega)
      exact Steps.readItems_item hhead hclose hform fun cursor hmiddle =>
        items_written items others hplain.2 hothers start { reader with cursor } gap rest count
          htable hgap hmiddle (by omega)
    next => cases hwritten

end

end Datum

/-! ## Shown data -/

namespace Steps

/-- At the end of the input there are no further data. -/
theorem all_of_end (stores : Stores) (count : Nat) {reader : Reader}
    (h : reader.cursor.remaining = []) :
    (upTo stores (count + 2)).all reader = .value [] reader := by
  have hskip : reader.skipWhitespace = reader :=
    Reader.skipWhitespace_eq_self (by simp [Reader.peek?, Cursor.peek?, h])
  have hnext : readNext (upTo stores count) reader = .value none reader := by
    unfold readNext
    dsimp only
    rw [hskip, if_pos (Cursor.isAtEnd_of_remaining h)]
  change (readNext (upTo stores count) reader).andThen _ = _
  rw [hnext]
  rfl

/-- A form with a value that ends with the input is all the data that are read. -/
theorem all_of_form {stores : Stores} {count : Nat} {reader : Reader} {result : Datum SymbolId}
    {c : Char} {cs : List Char} (h : reader.cursor.remaining = c :: cs)
    (hwhite : Unicode.isWhitespace c = false)
    (hform : ((upTo stores (count + 1)).form reader).StopsBefore (some result) reader []) :
    ((upTo stores (count + 3)).all reader).StopsBefore [result] reader [] := by
  have hnext : ((upTo stores (count + 2)).next reader).StopsBefore (some result) reader [] :=
    readNext_of_form h hwhite hform
  refine hnext.andThen fun cursor hend => ⟨cursor, hend, ?_⟩
  have hall := @all_of_end stores count { reader with cursor } hend
  dsimp only
  rw [hall]
  rfl

end Steps

namespace Reader

/-- A datum without symbols can be shown, and what is shown can be read with the standard table,
whatever its texts are and whatever the case policy, the symbol table and the namespace. One datum
of the same shape is read, to the end and without any other change. It is the same datum exactly
when every character of every text is legible: shown as itself, as an escaped quote or as an escaped
backslash. -/
theorem readAll_show? (stores : Stores) (shower host : SymbolTable) (current : NamespaceId)
    (policy : CasePolicy) {datum : Datum SymbolId} (hplain : datum.symbols = []) :
    ∃ shown, shower.show? datum = some shown ∧
      let reader := ofSource shown (ReadTable.standard.withCase policy) host current
      ∃ read cursor, cursor.remaining = [] ∧
        reader.readAll stores = .value [read] { reader with cursor } ∧
        read.shape = datum.shape ∧
        (read = datum ↔ ∀ content ∈ datum.texts, ∀ c ∈ content.toList, Quoted.Legible c) := by
  obtain ⟨written, hwritten⟩ := @Datum.exists_traverse? _ _ shower.qualifiedName? datum
    (by simp [hplain])
  refine ⟨String.ofList written.write, by rw [SymbolTable.show?, hwritten]; rfl, ?_⟩
  intro reader
  obtain ⟨c, cs, hwrite, hwhite, -⟩ := Datum.exists_write_eq_cons hplain hwritten
  have hremaining : reader.cursor.remaining = written.write ++ [] := by
    simp [reader, ofSource]
  have hhead : reader.cursor.remaining = c :: cs := by
    rw [hremaining, List.append_nil, hwrite]
  -- the allowance covers two calls for each written character, and those for all data
  obtain ⟨count, hallowance, hcount⟩ : ∃ count, reader.allowance = count + 3 ∧
      2 * written.write.length ≤ count + 1 := by
    have hmul : (written.write.length + 1) * 3 ≤
        (written.write.length + 1) * (reader.table.depth + 3) :=
      Nat.mul_le_mul_left _ (Nat.le_add_left 3 _)
    refine ⟨reader.allowance - 3, ?_, ?_⟩ <;>
      rw [allowance, expansionAllowance, hremaining, List.append_nil] <;> omega
  have hform := @Datum.form_written _ stores policy datum written hplain hwritten reader []
    (count + 1) rfl hremaining hcount
  obtain ⟨cursor, hend, hall⟩ := Steps.all_of_form hhead hwhite hform
  refine ⟨datum.mapTexts Quoted.readBackText, cursor, hend, ?_, datum.shape_mapTexts _, ?_⟩
  · rw [readAll, hallowance]
    exact hall
  · rw [Datum.mapTexts_eq_self_iff]
    simp only [Quoted.readBackText_eq_self_iff]

/-- The first datum has quotes and backslashes in its texts and is read back. The second one has a
line break, of which the letter of its escape is left. -/
theorem readAll_show?_lineBreak :
    let host := Reference.libraryHost
    let reads (shown : String) (data : List (Datum SymbolId)) : Prop :=
      ∃ after, (ofSource shown (ReadTable.standard.withCase .invert) host ⟨1⟩).readAll
        (fun _ => .empty) = .value data after
    let legible : Datum SymbolId := .list [.quote (.text "a\\b \"c\""), .list [], .text ""]
    let broken : Datum SymbolId := .quote (.list [.text "a\nb"])
    legible.symbols = [] ∧ broken.symbols = [] ∧
      host.show? legible = some "('\"a\\\\b \\\"c\\\"\" () \"\")" ∧
      reads "('\"a\\\\b \\\"c\\\"\" () \"\")" [legible] ∧
      host.show? broken = some "'(\"a\\nb\")" ∧
      ∃ read, reads "'(\"a\\nb\")" [read] ∧ read.shape = broken.shape ∧ read ≠ broken := by
  intro host reads legible broken
  have hshown : host.show? legible = some "('\"a\\\\b \\\"c\\\"\" () \"\")" := by decide +kernel
  have hshown' : host.show? broken = some "'(\"a\\nb\")" := by decide +kernel
  -- characters are checked one by one, along the lists that they stand in
  let checks (datum : Datum SymbolId) : Bool :=
    datum.texts.all fun content => content.toList.all fun c => Quoted.Legible c
  have hchecks (datum : Datum SymbolId) : checks datum = true ↔
      ∀ content ∈ datum.texts, ∀ c ∈ content.toList, Quoted.Legible c := by
    simp only [checks, List.all_eq_true, decide_eq_true_eq]
  have hlegible : checks legible = true := by decide +kernel
  have hbroken : ¬ checks broken = true := by decide +kernel
  obtain ⟨shown, hshow, read, cursor, -, hread, -, hiff⟩ :=
    @readAll_show? (fun _ => .empty) host host ⟨1⟩ .invert legible rfl
  obtain ⟨shown', hshow', read', cursor', -, hread', hshape', hiff'⟩ :=
    @readAll_show? (fun _ => .empty) host host ⟨1⟩ .invert broken rfl
  obtain rfl := Option.some.inj (hshow.symm.trans hshown)
  obtain rfl := Option.some.inj (hshow'.symm.trans hshown')
  obtain rfl := hiff.2 ((hchecks legible).1 hlegible)
  exact ⟨rfl, rfl, hshown, ⟨_, hread⟩, hshown', read', ⟨_, hread'⟩, hshape',
    fun heq => hbroken ((hchecks broken).2 (hiff'.1 heq))⟩

end Reader

end AliasReader
