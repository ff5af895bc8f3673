import AliasReader.Datum
import AliasReader.Reader.Failure
import AliasReader.Proofs.Reader.Lexeme

/-!
# Grammar of the Standard Syntax

A form is a token, a text, a list of forms between parentheses, or a quote before a form. The
grammar relates lexemes to the data that they write; a machine that keeps track of the open lists
and quotes finds the first place at which lexemes are no forms. The grammar determines the data,
and the machine finds no fault with lexemes that the grammar accepts.

## Main definitions

* `Form` and `Forms`: the grammar;
* `fault`: the first fault in lexemes, read from left to right.

## Main results

* `Forms.unique`: lexemes write at most one list of data;
* `Forms.fault_eq_none`: forms have no fault.
-/

namespace AliasReader

/-! ## The grammar -/

mutual

/-- Lexemes that write one datum. -/
inductive Form : List Lexeme → Datum String → Prop
  | token (name : String) : Form [.token name] (.symbol name)
  | text (content : String) : Form [.text content] (.text content)
  | list {lexemes : List Lexeme} {items : List (Datum String)} :
      Forms lexemes items → Form (.opening :: (lexemes ++ [.closing])) (.list items)
  | quote {lexemes : List Lexeme} {datum : Datum String} :
      Form lexemes datum → Form (.quote :: lexemes) (.quote datum)

/-- Lexemes that write data, one after the other. -/
inductive Forms : List Lexeme → List (Datum String) → Prop
  | nil : Forms [] []
  | cons {first rest : List Lexeme} {datum : Datum String} {data : List (Datum String)} :
      Form first datum → Forms rest data → Forms (first ++ rest) (datum :: data)

end

namespace Datum

mutual

/-- The lexemes that write a datum. -/
def lexemes : Datum String → List Lexeme
  | symbol name => [.token name]
  | text content => [.text content]
  | list items => .opening :: (lexemesOfItems items ++ [.closing])
  | quote quoted => .quote :: quoted.lexemes

/-- The lexemes that write data, one after the other. -/
def lexemesOfItems : List (Datum String) → List Lexeme
  | [] => []
  | item :: rest => item.lexemes ++ lexemesOfItems rest

end

/-- The lexemes of two lists of data follow each other. -/
theorem lexemesOfItems_append (items others : List (Datum String)) :
    lexemesOfItems (items ++ others) = lexemesOfItems items ++ lexemesOfItems others := by
  induction items with
  | nil => rfl
  | cons item rest ih => simp [lexemesOfItems, ih]

end Datum

/-! The grammar relates every datum to its own lexemes and to no others. -/

mutual

theorem Form.eq_lexemes : ∀ {lexemes : List Lexeme} {datum : Datum String},
    Form lexemes datum → lexemes = datum.lexemes
  | _, _, .token _ => rfl
  | _, _, .text _ => rfl
  | _, _, .list h => by rw [Datum.lexemes, h.eq_lexemes]
  | _, _, .quote h => by rw [Datum.lexemes, h.eq_lexemes]

theorem Forms.eq_lexemes : ∀ {lexemes : List Lexeme} {data : List (Datum String)},
    Forms lexemes data → lexemes = Datum.lexemesOfItems data
  | _, _, .nil => rfl
  | _, _, .cons h h' => by rw [Datum.lexemesOfItems, h.eq_lexemes, h'.eq_lexemes]

end

mutual

theorem form_lexemes : ∀ datum : Datum String, Form datum.lexemes datum
  | .symbol name => .token name
  | .text content => .text content
  | .list items => .list (forms_lexemes items)
  | .quote quoted => .quote (form_lexemes quoted)

theorem forms_lexemes : ∀ data : List (Datum String), Forms (Datum.lexemesOfItems data) data
  | [] => .nil
  | datum :: data => .cons (form_lexemes datum) (forms_lexemes data)

end

/-- Lexemes write given data exactly when they are the lexemes of the data. -/
theorem forms_iff (lexemes : List Lexeme) (data : List (Datum String)) :
    Forms lexemes data ↔ lexemes = Datum.lexemesOfItems data :=
  ⟨Forms.eq_lexemes, fun h => h ▸ forms_lexemes data⟩

/-! ## The grammar determines the data -/

/-- No datum starts with these lexemes: they are none, or a closing parenthesis comes first. -/
def Lexeme.StopsForms (lexemes : List Lexeme) : Prop :=
  ∀ lexeme ∈ lexemes.head?, lexeme = .closing

/-- A datum starts with a lexeme that is no closing parenthesis. -/
theorem Datum.exists_lexemes_eq_cons (datum : Datum String) :
    ∃ first rest, datum.lexemes = first :: rest ∧ first ≠ .closing := by
  cases datum with
  | symbol name => exact ⟨_, _, rfl, Lexeme.noConfusion⟩
  | text content => exact ⟨_, _, rfl, Lexeme.noConfusion⟩
  | list items => exact ⟨_, _, rfl, Lexeme.noConfusion⟩
  | quote quoted => exact ⟨_, _, rfl, Lexeme.noConfusion⟩

/-- Lexemes with which no datum starts do not start with those of a datum. -/
theorem Lexeme.StopsForms.ne_lexemes {rest : List Lexeme} (h : Lexeme.StopsForms rest)
    (datum : Datum String) (others : List Lexeme) : rest ≠ datum.lexemes ++ others := by
  obtain ⟨first, tail, hdatum, hfirst⟩ := datum.exists_lexemes_eq_cons
  rintro rfl
  refine hfirst (h first ?_)
  simp [hdatum]

mutual

/-- A datum can be told from lexemes that start with its own. -/
theorem Datum.lexemes_append_inj : ∀ (datum datum' : Datum String) {rest rest' : List Lexeme},
    datum.lexemes ++ rest = datum'.lexemes ++ rest' → datum = datum' ∧ rest = rest'
  | .symbol name, datum', rest, rest', h => by
    cases datum' <;> simp_all [Datum.lexemes]
  | .text content, datum', rest, rest', h => by
    cases datum' <;> simp_all [Datum.lexemes]
  | .list items, datum', rest, rest', h => by
    cases datum' <;> simp [Datum.lexemes] at h
    case list items' =>
      -- behind the items of either list comes its closing parenthesis
      have hstops : ∀ rest, Lexeme.StopsForms (.closing :: rest) := by
        intro rest lexeme hlexeme
        simpa using hlexeme.symm
      obtain ⟨hitems, hrest⟩ :=
        Datum.lexemesOfItems_append_inj items items' (hstops rest) (hstops rest') h
      exact ⟨by rw [hitems], (List.cons.inj hrest).2⟩
  | .quote quoted, datum', rest, rest', h => by
    cases datum' <;> simp [Datum.lexemes] at h
    case quote quoted' =>
      obtain ⟨hquoted, hrest⟩ := Datum.lexemes_append_inj quoted quoted' h
      exact ⟨by rw [hquoted], hrest⟩

/-- Data can be told from their lexemes, if no further datum follows. -/
theorem Datum.lexemesOfItems_append_inj : ∀ (items items' : List (Datum String))
    {rest rest' : List Lexeme}, Lexeme.StopsForms rest → Lexeme.StopsForms rest' →
    Datum.lexemesOfItems items ++ rest = Datum.lexemesOfItems items' ++ rest' →
    items = items' ∧ rest = rest'
  | [], [], rest, rest', _, _, h => ⟨rfl, h⟩
  | [], item' :: items', rest, rest', hstops, _, h => by
    rw [Datum.lexemesOfItems, Datum.lexemesOfItems, List.append_assoc] at h
    exact absurd h (hstops.ne_lexemes item' _)
  | item :: items, [], rest, rest', _, hstops', h => by
    rw [Datum.lexemesOfItems, Datum.lexemesOfItems, List.append_assoc] at h
    exact absurd h.symm (hstops'.ne_lexemes item _)
  | item :: items, item' :: items', rest, rest', hstops, hstops', h => by
    rw [Datum.lexemesOfItems, Datum.lexemesOfItems, List.append_assoc, List.append_assoc] at h
    obtain ⟨hitem, hrest⟩ := Datum.lexemes_append_inj item item' h
    obtain ⟨hitems, htail⟩ := Datum.lexemesOfItems_append_inj items items' hstops hstops' hrest
    exact ⟨by rw [hitem, hitems], htail⟩

end

/-- Lexemes write at most one list of data. -/
theorem Forms.unique {lexemes : List Lexeme} {data data' : List (Datum String)}
    (h : Forms lexemes data) (h' : Forms lexemes data') : data = data' := by
  have hstops : Lexeme.StopsForms [] := fun lexeme hlexeme => by cases hlexeme
  have heq : Datum.lexemesOfItems data ++ [] = Datum.lexemesOfItems data' ++ [] := by
    rw [← h.eq_lexemes, ← h'.eq_lexemes]
  exact (Datum.lexemesOfItems_append_inj data data' hstops hstops heq).1

/-! ## The first fault -/

/-- What is open around a place in a source: a list or a quote, with the offset of its first
character. -/
inductive Opened where
  /-- A list that is not closed yet. -/
  | list (start : Nat)
  /-- A quote whose form is not complete yet. -/
  | quote (start : Nat)
deriving DecidableEq, Repr

/-- What stays open behind a complete form: the quotes right around it are complete, too. -/
def completed : List Opened → List Opened
  | .quote _ :: outer => completed outer
  | opened => opened

/-- The first fault in lexemes, read from left to right inside of what is open, in a source that
ends at the offset `stop`. -/
def fault (stop : Nat) : List PlacedLexeme → List Opened → Option ReadFailure
  | [], [] => none
  | [], .list start :: _ => some (.unterminatedList ⟨start, stop⟩)
  | [], .quote start :: _ => some (.unexpectedEnd ⟨start, stop⟩)
  | ⟨.opening, start⟩ :: rest, opened => fault stop rest (.list start :: opened)
  | ⟨.closing, start⟩ :: rest, opened =>
      -- a quote around the parenthesis still wants its form
      match opened with
      | .list _ :: outer => fault stop rest (completed outer)
      | _ => some (.unmatchedClose ⟨start, start + 1⟩)
  | ⟨.quote, start⟩ :: rest, opened => fault stop rest (.quote start :: opened)
  | ⟨.text _, _⟩ :: rest, opened => fault stop rest (completed opened)
  | ⟨.token _, _⟩ :: rest, opened => fault stop rest (completed opened)
  | ⟨.unclosed, start⟩ :: _, _ => some (.unterminatedText ⟨start, stop⟩)

/-- The first fault in the lexemes of a source text. -/
def faultOf (source : String) : Option ReadFailure :=
  fault (byteLength source.toList) (Lexeme.ofSource source) []

theorem PlacedLexeme.exists_eq_singleton {placed : List PlacedLexeme} {lexeme : Lexeme}
    (h : placed.map PlacedLexeme.lexeme = [lexeme]) : ∃ start, placed = [⟨lexeme, start⟩] := by
  obtain ⟨⟨_, start⟩, tail, rfl, rfl, htail⟩ := List.map_eq_cons_iff.1 h
  exact ⟨start, by rw [List.map_eq_nil_iff.1 htail]⟩

mutual

/-- A datum is no fault, whatever it stands in. -/
theorem fault_datum (stop : Nat) : ∀ (datum : Datum String) (placed rest : List PlacedLexeme)
    (opened : List Opened), placed.map PlacedLexeme.lexeme = datum.lexemes →
    fault stop (placed ++ rest) opened = fault stop rest (completed opened)
  | .symbol name, placed, rest, opened, h => by
    obtain ⟨start, rfl⟩ := PlacedLexeme.exists_eq_singleton h
    rfl
  | .text content, placed, rest, opened, h => by
    obtain ⟨start, rfl⟩ := PlacedLexeme.exists_eq_singleton h
    rfl
  | .list items, placed, rest, opened, h => by
    rw [Datum.lexemes] at h
    obtain ⟨⟨_, start⟩, tail, rfl, rfl, htail⟩ := List.map_eq_cons_iff.1 h
    -- the lexemes between the parentheses are those of the items
    obtain ⟨inner, last, rfl, hinner, hlast⟩ := List.map_eq_append_iff.1 htail
    obtain ⟨close, rfl⟩ := PlacedLexeme.exists_eq_singleton hlast
    -- the list is open while its items are read
    have hitems := fault_items stop items inner (⟨.closing, close⟩ :: rest)
      (.list start :: opened) rfl hinner
    simpa [fault] using hitems
  | .quote quoted, placed, rest, opened, h => by
    rw [Datum.lexemes] at h
    obtain ⟨⟨_, start⟩, tail, rfl, rfl, htail⟩ := List.map_eq_cons_iff.1 h
    exact fault_datum stop quoted tail rest (.quote start :: opened) htail

/-- Data are no fault where no quote is open. -/
theorem fault_items (stop : Nat) : ∀ (items : List (Datum String))
    (placed rest : List PlacedLexeme) (opened : List Opened), completed opened = opened →
    placed.map PlacedLexeme.lexeme = Datum.lexemesOfItems items →
    fault stop (placed ++ rest) opened = fault stop rest opened
  | [], placed, rest, opened, _, h => by
    rw [List.map_eq_nil_iff.1 h, List.nil_append]
  | item :: items, placed, rest, opened, hopened, h => by
    rw [Datum.lexemesOfItems] at h
    obtain ⟨first, others, rfl, hfirst, hothers⟩ := List.map_eq_append_iff.1 h
    -- a complete item leaves what is open as it was, since no quote waits for it
    rw [List.append_assoc, fault_datum stop item first _ opened hfirst, hopened]
    exact fault_items stop items others rest opened hopened hothers

end

/-- Forms have no fault. -/
theorem Forms.fault_eq_none {placed : List PlacedLexeme} {data : List (Datum String)}
    (h : Forms (placed.map PlacedLexeme.lexeme) data) (stop : Nat) :
    fault stop placed [] = none := by
  have hitems := fault_items stop data placed [] [] rfl h.eq_lexemes
  rw [List.append_nil] at hitems
  rw [hitems]
  rfl

mutual

theorem Form.unclosed_notMem : ∀ {lexemes : List Lexeme} {datum : Datum String},
    Form lexemes datum → Lexeme.unclosed ∉ lexemes
  | _, _, .token _ => by simp
  | _, _, .text _ => by simp
  | _, _, .list h => by simp [h.unclosed_notMem]
  | _, _, .quote h => by simp [h.unclosed_notMem]

/-- In forms every text is closed. -/
theorem Forms.unclosed_notMem : ∀ {lexemes : List Lexeme} {data : List (Datum String)},
    Forms lexemes data → Lexeme.unclosed ∉ lexemes
  | _, _, .nil => List.not_mem_nil
  | _, _, .cons h h' => by simp [h.unclosed_notMem, h'.unclosed_notMem]

end

end AliasReader
