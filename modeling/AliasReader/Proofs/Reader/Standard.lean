import AliasReader.Proofs.Namespace.Interning
import AliasReader.Proofs.Reader.Allowance
import AliasReader.Proofs.Reader.Grammar

/-!
# Reading the Standard Syntax

With the standard table a reader accepts exactly the grammar of the standard syntax, and otherwise
reports the first fault in the lexemes of the source.

Each step of reading is related to the lexemes that it passes. A step with a value passes the
lexemes that write the value, and interns their tokens in order. A step that fails reports the
fault that the remaining lexemes have in every place in which the step may be taken; a list and a
quote that are open around it make no difference, except where the input ends.

## Main results

* `Steps.reads_upTo`: the steps in terms of the lexemes;
* `Reader.readAll_standard`: what is read from a whole source.
-/

namespace AliasReader

/-! ## The standard table -/

namespace ReadTable

/-- The bindings of the standard table. -/
theorem binding?_standard (policy : CasePolicy) (c : Char) :
    (standard.withCase policy).binding? c =
      if c = ';' then some ⟨.comment, true⟩
      else if c = '\'' then some ⟨.quote, true⟩
      else if c = '"' then some ⟨.text, true⟩
      else if c = ')' then some ⟨.close, true⟩
      else if c = '(' then some ⟨.list, true⟩
      else none := by
  have hpolicy : (standard.withCase policy).binding? c = standard.binding? c := rfl
  rw [hpolicy, standard]
  simp only [DispatchTable.binding?_bind]
  rfl

/-- The standard table goes on tokens with all characters but white space and the bound ones. -/
theorem continuesToken_standard (policy : CasePolicy) :
    Reader.continuesToken (standard.withCase policy) = Lexeme.isPlain := by
  funext c
  have hterminating : (standard.withCase policy).isTerminating c =
      decide (c ∈ Lexeme.boundChars) := by
    rw [DispatchTable.isTerminating, binding?_standard]
    by_cases hmem : c ∈ Lexeme.boundChars
    · have hcases := hmem
      simp only [Lexeme.boundChars, List.mem_cons, List.not_mem_nil, or_false] at hcases
      rcases hcases with rfl | rfl | rfl | rfl | rfl <;> rfl
    · have hne := hmem
      simp only [Lexeme.boundChars, List.mem_cons, List.not_mem_nil, or_false, not_or] at hne
      obtain ⟨h1, h2, h3, h4, h5⟩ := hne
      simp [h1, h2, h3, h4, h5, hmem]
  rw [Reader.continuesToken, hterminating, Lexeme.isPlain]

end ReadTable

namespace Reader

/-- A reader of the standard syntax: it has the standard table under a case policy, an existing
namespace, and nothing in front of its source text. -/
structure IsStandard (policy : CasePolicy) (reader : Reader) : Prop where
  /-- The table is the standard one. -/
  table : reader.table = ReadTable.standard.withCase policy
  /-- The namespace exists. -/
  current : reader.host.hasNamespace reader.current = true
  /-- What remains is the end of the source text. -/
  within : reader.cursor.remaining <:+ reader.cursor.source.toList

/-- The lexemes between two readers write data, whose tokens were interned in order. -/
structure Passes (policy : CasePolicy) (before after : Reader) (data : List (Datum SymbolId)) :
    Prop where
  /-- The second reader goes on from the first one. -/
  continues : before.Continues after
  /-- The lexemes between them write the data. -/
  written : ∃ passed written, before.cursor.lexemes = passed ++ after.cursor.lexemes ∧
    passed.map PlacedLexeme.lexeme = Datum.lexemesOfItems written ∧
    SymbolTable.Interns policy.fold before.current before.host after.host written data

theorem Continues.stop_eq {before after : Reader} (h : before.Continues after) :
    after.cursor.stop = before.cursor.stop := by
  rw [Cursor.stop, Cursor.stop, h.source]

variable {policy : CasePolicy} {before mid after : Reader} {data data' : List (Datum SymbolId)}

theorem passes_skipWhitespace (policy : CasePolicy) (reader : Reader) :
    Passes policy reader reader.skipWhitespace [] :=
  ⟨reader.continues_skipWhitespace, [], [], (reader.cursor.lexemes_skipWhile_isWhitespace).symm,
    rfl, .nil _⟩

namespace Passes

/-- A reader of the standard syntax goes on as one. -/
theorem isStandard (h : Passes policy before after data) (hbefore : before.IsStandard policy) :
    after.IsStandard policy := by
  obtain ⟨passed, written, -, -, hinterns⟩ := h.written
  refine ⟨h.continues.table.trans hbefore.table, ?_, ?_⟩
  · rw [h.continues.current, hinterns.table]
    exact (SymbolTable.extends_internAll hbefore.current _).hasNamespace _ hbefore.current
  · rw [h.continues.source]
    exact h.continues.suffix.trans hbefore.within

/-- Passing data and then others passes them together. -/
theorem append (hbefore : before.IsStandard policy) (h : Passes policy before mid data)
    (h' : Passes policy mid after data') : Passes policy before after (data ++ data') := by
  obtain ⟨passed, written, hlexemes, hforms, hinterns⟩ := h.written
  obtain ⟨passed', written', hlexemes', hforms', hinterns'⟩ := h'.written
  rw [h.continues.current] at hinterns'
  refine ⟨h.continues.trans h'.continues, passed ++ passed', written ++ written', ?_, ?_, ?_⟩
  · rw [hlexemes, hlexemes', List.append_assoc]
  · rw [List.map_append, hforms, hforms', Datum.lexemesOfItems_append]
  · exact hinterns.append hbefore.current hinterns'

/-- Where no quote is open, data that are passed make no difference to the fault. -/
theorem fault_eq (h : Passes policy before after data) {opened : List Opened}
    (hopened : completed opened = opened) :
    fault before.cursor.stop before.cursor.lexemes opened =
      fault after.cursor.stop after.cursor.lexemes opened := by
  obtain ⟨passed, written, hlexemes, hforms, -⟩ := h.written
  rw [hlexemes, h.continues.stop_eq]
  exact fault_items before.cursor.stop written passed _ opened hopened hforms

/-- Where nothing is passed, the lexemes stay the same. -/
theorem lexemes_eq (h : Passes policy before after []) :
    after.cursor.lexemes = before.cursor.lexemes := by
  obtain ⟨passed, written, hlexemes, hforms, hinterns⟩ := h.written
  rw [Datum.eq_nil_of_traverseItems? hinterns.data] at hforms
  rw [List.map_eq_nil_iff.1 hforms, List.nil_append] at hlexemes
  exact hlexemes.symm

end Passes

end Reader

/-! ## Outcomes in terms of lexemes -/

namespace Outcome

variable {α β : Type}

/-- A value and a failure of a step have the given properties. The step needs no namespace that is
missing; it may have been given up. -/
def Meets (onValue : α → Reader → Prop) (onFailure : ReadFailure → Prop) : Outcome α → Prop
  | value result after => onValue result after
  | failed failure _ => onFailure failure
  | dangling _ => False
  | exhausted => True

variable {onValue : α → Reader → Prop} {onValue' : β → Reader → Prop}
  {onFailure onFailure' : ReadFailure → Prop}

/-- A step that meets properties meets weaker ones. -/
theorem Meets.mono {outcome : Outcome α} {onValue onValue' : α → Reader → Prop}
    (h : outcome.Meets onValue onFailure)
    (hvalue : ∀ result after, onValue result after → onValue' result after)
    (hfailure : ∀ failure, onFailure failure → onFailure' failure) :
    outcome.Meets onValue' onFailure' := by
  cases outcome with
  | value result after => exact hvalue result after h
  | failed failure after => exact hfailure failure h
  | dangling after => exact h
  | exhausted => trivial

/-- What a step and the steps behind it meet. -/
theorem Meets.andThen {outcome : Outcome α} {next : α → Reader → Outcome β}
    (h : outcome.Meets onValue onFailure)
    (hfailure : ∀ failure, onFailure failure → onFailure' failure)
    (hnext : ∀ result mid, onValue result mid → (next result mid).Meets onValue' onFailure') :
    (outcome.andThen next).Meets onValue' onFailure' := by
  cases outcome with
  | value result mid => exact hnext result mid h
  | failed failure after => exact hfailure failure h
  | dangling after => exact h
  | exhausted => trivial

end Outcome

/-- A list is open, and no quote inside of it. -/
def InList : List Opened → Prop
  | .list _ :: _ => True
  | _ => False

namespace Reader

/-- A failure is the fault of the remaining lexemes, in every place where a condition on what is
open holds. -/
def Faults (reader : Reader) (place : List Opened → Prop) (failure : ReadFailure) : Prop :=
  ∀ opened, place opened → fault reader.cursor.stop reader.cursor.lexemes opened = some failure

/-- A fault stays when it is seen from in front of characters that hold no lexeme. -/
theorem Faults.of_passes_nil {policy : CasePolicy} {before after : Reader}
    (h : before.Passes policy after []) {place place' : List Opened → Prop}
    (hplace : ∀ opened, place opened → place' opened) (failure : ReadFailure)
    (hfaults : after.Faults place' failure) : before.Faults place failure := by
  intro opened hopened
  rw [← h.lexemes_eq, ← h.continues.stop_eq]
  exact hfaults opened (hplace opened hopened)

/-- Where no quote is open, a fault stays when it is seen from in front of data. -/
theorem Faults.of_passes {policy : CasePolicy} {before after : Reader}
    {data : List (Datum SymbolId)} (h : before.Passes policy after data)
    {place : List Opened → Prop} (hplace : ∀ opened, place opened → completed opened = opened)
    (failure : ReadFailure) (hfaults : after.Faults place failure) :
    before.Faults place failure := by
  intro opened hopened
  rw [h.fault_eq (hplace opened hopened)]
  exact hfaults opened hopened

end Reader

namespace Steps

/-- The steps read the standard syntax. -/
structure Reads (policy : CasePolicy) (steps : Steps) : Prop where
  /-- A form passes what it writes. A closing parenthesis is refused outside of lists only. -/
  form : ∀ reader : Reader, reader.IsStandard policy → (steps.form reader).Meets
    (fun result after => reader.Passes policy after result.toList)
    (reader.Faults fun opened => InList opened → reader.skipWhitespace.peek? ≠ some ')')
  /-- The next datum is passed, or the end is reached. -/
  next : ∀ reader : Reader, reader.IsStandard policy → (steps.next reader).Meets
    (fun result after => reader.Passes policy after result.toList ∧
      (result = none → after.cursor.remaining = []))
    (reader.Faults fun opened => ¬ InList opened)
  /-- All data are passed, and the end is reached. -/
  all : ∀ reader : Reader, reader.IsStandard policy → (steps.all reader).Meets
    (fun data after => reader.Passes policy after data ∧ after.cursor.remaining = [])
    (reader.Faults fun opened => opened = [])
  /-- The items of a list are passed up to its closing parenthesis. -/
  items : ∀ start (reader : Reader), reader.IsStandard policy → start ≤ reader.cursor.stop →
    (steps.items start reader).Meets
      (fun items after => ∃ mid, reader.Passes policy mid items ∧ mid.peek? = some ')' ∧
        after = mid.advance)
      (reader.Faults fun opened => ∃ outer, opened = .list start :: outer)

/-! ### What the handlers read

Each lemma is about a reader in front of the character that starts the form. -/

variable {stores : Stores} {steps : Steps} {policy : CasePolicy} {reader : Reader}
  (hreader : reader.IsStandard policy)

include hreader

theorem isStandard_advance : reader.advance.IsStandard policy := by
  have hcontinues := reader.continues_advance
  refine ⟨hreader.table, hreader.current, ?_⟩
  rw [hcontinues.source]
  exact hcontinues.suffix.trans hreader.within

/-- A list is read as its items, between two parentheses. -/
theorem list_reads (h : steps.Reads policy) (hpeek : reader.peek? = some '(')
    (place : List Opened → Prop) :
    ((steps.items reader.cursor.offset reader.advance).map fun items =>
      some (Datum.list items)).Meets
      (fun result after => reader.Passes policy after result.toList) (reader.Faults place) := by
  have hopening : reader.cursor.lexemes =
      ⟨.opening, reader.cursor.offset⟩ :: reader.advance.cursor.lexemes :=
    Cursor.lexemes_of_peek? hpeek (by decide)
  have hstop := reader.continues_advance.stop_eq
  have hitems := h.items reader.cursor.offset reader.advance (isStandard_advance hreader)
    (hstop.symm ▸ reader.cursor.offset_le_stop)
  refine hitems.andThen ?_ ?_
  · -- the fault of an item is one inside of the list, whatever the list stands in
    intro failure hfaults opened _
    have hfault := hfaults (.list reader.cursor.offset :: opened) ⟨opened, rfl⟩
    rw [hstop] at hfault
    rw [hopening, fault, hfault]
  · rintro items after ⟨mid, hpasses, hclose, rfl⟩
    have hclosing : mid.cursor.lexemes =
        ⟨.closing, mid.cursor.offset⟩ :: mid.advance.cursor.lexemes :=
      Cursor.lexemes_of_peek? hclose (by decide)
    obtain ⟨passed, written, hlexemes, hforms, hinterns⟩ := hpasses.written
    -- the items stand between the two parentheses
    refine ⟨reader.continues_advance.trans (hpasses.continues.trans mid.continues_advance),
      ⟨.opening, reader.cursor.offset⟩ :: (passed ++ [⟨.closing, mid.cursor.offset⟩]),
      [.list written], ?_, ?_, hinterns.list⟩
    · rw [hopening, hlexemes, hclosing]
      simp
    · simp [Datum.lexemesOfItems, Datum.lexemes, hforms]

/-- A closing parenthesis that does not close a list is a fault. -/
theorem close_reads (hpeek : reader.peek? = some ')') :
    reader.Faults (fun opened => ¬ InList opened)
      (.unmatchedClose (reader.advance.cursor.spanFrom reader.cursor.offset)) := by
  have hclosing : reader.cursor.lexemes =
      ⟨.closing, reader.cursor.offset⟩ :: reader.advance.cursor.lexemes :=
    Cursor.lexemes_of_peek? hpeek (by decide)
  intro opened hopened
  rw [show reader.advance.cursor.spanFrom reader.cursor.offset = _ from
    Cursor.spanFrom_closing hreader.within hpeek, hclosing]
  -- a quote wants a form and finds none
  match opened with
  | [] => rfl
  | .quote start :: outer => rfl
  | .list start :: outer => exact absurd trivial hopened

omit hreader in
/-- A text is read up to its closing quote. -/
theorem text_reads (hpeek : reader.peek? = some '"') (place : List Opened → Prop) :
    (reader.advance.takeText '"' reader.cursor.offset).Meets
      (fun result after => reader.Passes policy after result.toList) (reader.Faults place) := by
  unfold Reader.takeText
  cases hscan : scanText '"' reader.advance.cursor.remaining with
  | some found =>
    obtain ⟨content, count⟩ := found
    exact ⟨reader.continues_advance.trans (reader.advance.continues_drop count reader.host),
      [⟨.text (String.ofList content), reader.cursor.offset⟩], [.text (String.ofList content)],
      Cursor.lexemes_of_scanText hpeek hscan, rfl, rfl, rfl⟩
  | none =>
    -- the rest of the input was taken in search of the closing quote
    intro opened _
    have hend : (reader.advance.cursor.drop reader.advance.cursor.remaining.length).remaining =
        [] := by
      rw [Cursor.remaining_drop, List.drop_length]
    have hstop : (reader.advance.cursor.drop reader.advance.cursor.remaining.length).stop =
        reader.cursor.stop :=
      (reader.continues_advance.trans (reader.advance.continues_drop _ reader.host)).stop_eq
    have hspan := Cursor.spanFrom_of_end hend (hstop.symm ▸ reader.cursor.offset_le_stop)
    rw [Cursor.lexemes_of_scanText_eq_none hpeek hscan, hspan, hstop]
    rfl

/-- A quote is read with the datum behind it. -/
theorem quote_reads (h : steps.Reads policy) (hpeek : reader.peek? = some '\'')
    (place : List Opened → Prop) :
    (handle stores steps .quote '\'' reader.cursor.offset reader.advance).Meets
      (fun result after => reader.Passes policy after result.toList) (reader.Faults place) := by
  have hquote : reader.cursor.lexemes =
      ⟨.quote, reader.cursor.offset⟩ :: reader.advance.cursor.lexemes :=
    Cursor.lexemes_of_peek? hpeek (by decide)
  have hstop := reader.continues_advance.stop_eq
  refine (h.next reader.advance (isStandard_advance hreader)).andThen ?_ ?_
  · -- the fault has the same place inside of the quote
    intro failure hfaults opened _
    have hfault := hfaults (.quote reader.cursor.offset :: opened) id
    rw [hstop] at hfault
    rw [hquote, fault, hfault]
  · rintro (_ | datum) after ⟨hpasses, hend⟩
    · -- no datum is left, so the quote is the last lexeme
      intro opened _
      have hafter := hend rfl
      have hstop' : after.cursor.stop = reader.cursor.stop :=
        hpasses.continues.stop_eq.trans hstop
      have hspan := Cursor.spanFrom_of_end hafter (hstop'.symm ▸ reader.cursor.offset_le_stop)
      have hnothing : reader.advance.cursor.lexemes = [] := by
        rw [← hpasses.lexemes_eq]
        exact Cursor.lexemes_of_end (List.head?_eq_none_iff.2 hafter)
      rw [hspan, hstop', hquote, hnothing]
      rfl
    · -- what was passed behind the quote writes a single datum
      obtain ⟨passed, written, hlexemes, hforms, hinterns⟩ := hpasses.written
      obtain ⟨quoted, rfl, hquoted⟩ := SymbolTable.Interns.quote hinterns
      refine ⟨reader.continues_advance.trans hpasses.continues,
        ⟨.quote, reader.cursor.offset⟩ :: passed, [.quote quoted], ?_, ?_, hquoted⟩
      · rw [hquote, hlexemes, List.cons_append]
      · rw [Datum.lexemesOfItems, Datum.lexemesOfItems, List.append_nil] at hforms
        rw [List.map_cons, hforms, Datum.lexemesOfItems, Datum.lexemesOfItems, List.append_nil,
          Datum.lexemes]

omit hreader in
/-- A comment is passed up to the end of its line. -/
theorem comment_reads (hpeek : reader.peek? = some ';') :
    reader.Passes policy
      { reader.advance with cursor := reader.advance.cursor.skipWhile (· ≠ '\n') } [] := by
  have hcomment : reader.cursor.lexemes = (reader.advance.cursor.skipWhile (· ≠ '\n')).lexemes :=
    Cursor.lexemes_of_peek? hpeek (by decide)
  exact ⟨reader.continues_advance.trans (reader.advance.continues_drop _ reader.host), [], [],
    hcomment, rfl, .nil _⟩

/-- A character that is neither white space nor bound starts a token. -/
theorem token_reads {c : Char} (hpeek : reader.peek? = some c)
    (hplain : Lexeme.isPlain c = true) (place : List Opened → Prop) :
    (reader.takeSymbol.map some).Meets
      (fun result after => reader.Passes policy after result.toList) (reader.Faults place) := by
  have hlexemes : reader.cursor.lexemes =
      ⟨.token (String.ofList (reader.cursor.remaining.takeWhile Lexeme.isPlain)),
        reader.cursor.offset⟩ :: (reader.cursor.skipWhile Lexeme.isPlain).lexemes := by
    simp only [Lexeme.isPlain, Lexeme.boundChars, Bool.not_eq_eq_eq_not, Bool.not_true,
      Bool.or_eq_false_iff, decide_eq_false_iff_not, List.mem_cons, List.not_mem_nil, or_false,
      not_or] at hplain
    obtain ⟨hwhite, hopening, hclosing, htext, hquote, hcomment⟩ := hplain
    rw [Cursor.lexemes_of_peek? hpeek hwhite, if_neg hopening, if_neg hclosing, if_neg hquote,
      if_neg hcomment, if_neg htext]
  -- the namespace exists, so a symbol is made
  obtain ⟨symbol, hsymbol, -, -⟩ := SymbolTable.intern_spec hreader.current
    (policy.fold (String.ofList (reader.cursor.remaining.takeWhile Lexeme.isPlain)))
  have hcontinues : Reader.continuesToken reader.table = Lexeme.isPlain := by
    rw [hreader.table, ReadTable.continuesToken_standard]
  have hcase : reader.table.case = policy := by rw [hreader.table]; rfl
  unfold Reader.takeSymbol
  rw [hcontinues, hcase]
  simp only [Cursor.takeWhile]
  split
  next found host hintern =>
    exact ⟨reader.continues_drop _ host, [_], [.symbol _], hlexemes, rfl,
      .symbol hreader.current hintern⟩
  next host hintern =>
    rw [hintern] at hsymbol
    cases hsymbol

/-- A form is read where it starts. Only a closing parenthesis depends on what is open around
it. -/
theorem form_reads (h : steps.Reads policy) {c : Char} (hpeek : reader.peek? = some c)
    (hwhite : Unicode.isWhitespace c = false) :
    (readForm stores steps reader).Meets
      (fun result after => reader.Passes policy after result.toList)
      (reader.Faults fun opened => InList opened → c ≠ ')') := by
  have hskip := Reader.skipWhitespace_of_peek? hpeek hwhite
  have hpeek' : reader.skipWhitespace.peek? = some c := hskip.symm ▸ hpeek
  have hbinding := ReadTable.binding?_standard policy c
  rw [← hreader.table] at hbinding
  by_cases hbound : c ∈ Lexeme.boundChars
  · -- one handler for each bound character, in the order of the list
    simp only [Lexeme.boundChars, List.mem_cons, List.not_mem_nil, or_false] at hbound
    rcases hbound with rfl | rfl | rfl | rfl | rfl
    · rw [readForm_of_bound hpeek' hbinding, hskip]
      exact list_reads hreader h hpeek _
    · rw [readForm_of_bound hpeek' hbinding, hskip]
      intro opened hopened
      exact close_reads hreader hpeek opened fun hlist => hopened hlist rfl
    · rw [readForm_of_bound hpeek' hbinding, hskip]
      exact text_reads hpeek _
    · rw [readForm_of_bound hpeek' hbinding, hskip]
      exact quote_reads hreader h hpeek _
    · rw [readForm_of_bound hpeek' hbinding, hskip]
      exact comment_reads hpeek
  · have hplain : Lexeme.isPlain c = true := by simp [Lexeme.isPlain, hwhite, hbound]
    simp only [Lexeme.boundChars, List.mem_cons, List.not_mem_nil, or_false, not_or] at hbound
    obtain ⟨hopening, hclosing, htext, hquote, hcomment⟩ := hbound
    rw [if_neg hcomment, if_neg hquote, if_neg htext, if_neg hclosing, if_neg hopening] at hbinding
    rw [readForm_of_unbound hpeek' hbinding, hskip]
    exact token_reads hreader hpeek hplain _

/-! ### What the steps read -/

theorem readForm_reads (h : steps.Reads policy) :
    (readForm stores steps reader).Meets
      (fun result after => reader.Passes policy after result.toList)
      (reader.Faults fun opened => InList opened → reader.skipWhitespace.peek? ≠ some ')') := by
  have hskip := Reader.passes_skipWhitespace policy reader
  cases hpeek : reader.skipWhitespace.peek? with
  | none =>
    rw [readForm_of_end hpeek]
    exact hskip
  | some c =>
    rw [← readForm_skipWhitespace]
    have hstart := hskip.isStandard hreader
    -- the white space in front holds neither lexemes nor symbols
    refine (form_reads hstart h hpeek (Reader.isWhitespace_of_peek? hpeek)).mono ?_ ?_
    · intro result after hpasses
      exact hskip.append hreader hpasses
    · refine Reader.Faults.of_passes_nil hskip ?_
      rintro opened hplace hlist rfl
      exact hplace hlist rfl

theorem readNext_reads (h : steps.Reads policy) :
    (readNext steps reader).Meets
      (fun result after => reader.Passes policy after result.toList ∧
        (result = none → after.cursor.remaining = []))
      (reader.Faults fun opened => ¬ InList opened) := by
  have hskip := Reader.passes_skipWhitespace policy reader
  unfold readNext
  dsimp only
  split
  next hend =>
    refine ⟨hskip, fun _ => ?_⟩
    rw [Cursor.isAtEnd, Option.isNone_iff_eq_none] at hend
    exact List.head?_eq_none_iff.1 hend
  next =>
    have hstart := hskip.isStandard hreader
    refine (h.form reader.skipWhitespace hstart).andThen ?_ ?_
    · -- outside of lists a form may start with any character
      refine Reader.Faults.of_passes_nil hskip ?_
      intro opened hopened hlist
      exact absurd hlist hopened
    · rintro (_ | datum) after hpasses
      · -- a form without a value is passed over
        have hafter := hskip.append hreader hpasses
        refine (h.next after (hafter.isStandard hreader)).mono ?_ ?_
        · rintro result behind ⟨hbehind, hend⟩
          exact ⟨hafter.append hreader hbehind, hend⟩
        · exact Reader.Faults.of_passes_nil hafter fun _ hopened => hopened
      · exact ⟨hskip.append hreader hpasses, fun hnone => by cases hnone⟩

theorem readAll_reads (h : steps.Reads policy) :
    (readAll steps reader).Meets
      (fun data after => reader.Passes policy after data ∧ after.cursor.remaining = [])
      (reader.Faults fun opened => opened = []) := by
  refine (h.next reader hreader).andThen ?_ ?_
  · intro failure hfaults opened hopened
    exact hfaults opened (by rw [hopened]; exact id)
  · rintro (_ | datum) mid ⟨hpasses, hend⟩
    · exact ⟨hpasses, hend rfl⟩
    · refine (h.all mid (hpasses.isStandard hreader)).andThen ?_ ?_
      · exact Reader.Faults.of_passes hpasses fun opened hopened => by rw [hopened]; rfl
      · rintro data after ⟨hafter, hend⟩
        exact ⟨hpasses.append hreader hafter, hend⟩

theorem readItems_reads (h : steps.Reads policy) {start : Nat}
    (hstart : start ≤ reader.cursor.stop) :
    (readItems steps start reader).Meets
      (fun items after => ∃ mid, reader.Passes policy mid items ∧ mid.peek? = some ')' ∧
        after = mid.advance)
      (reader.Faults fun opened => ∃ outer, opened = .list start :: outer) := by
  have hskip := Reader.passes_skipWhitespace policy reader
  have hstop := hskip.continues.stop_eq
  unfold readItems
  dsimp only
  split
  next hpeek =>
    -- the list is the innermost construct that is open at the end
    rintro opened ⟨outer, rfl⟩
    have hspan := Cursor.spanFrom_of_end (List.head?_eq_none_iff.1 hpeek) (hstop.symm ▸ hstart)
    rw [hspan, hstop, ← hskip.lexemes_eq, Cursor.lexemes_of_end hpeek]
    rfl
  next c hpeek =>
    split
    next hclose => exact ⟨reader.skipWhitespace, hskip, hclose ▸ hpeek, rfl⟩
    next hclose =>
      have hmid := hskip.isStandard hreader
      refine (h.form reader.skipWhitespace hmid).andThen ?_ ?_
      · -- the form does not start with the parenthesis that was tested for
        refine Reader.Faults.of_passes_nil hskip ?_
        rintro opened - - hpeek'
        rw [Reader.skipWhitespace_skipWhitespace, hpeek] at hpeek'
        exact hclose (Option.some.inj hpeek')
      · intro item mid hpasses
        have hitem := hskip.append hreader hpasses
        have hwithin : start ≤ mid.cursor.stop := by rwa [hitem.continues.stop_eq]
        refine (h.items start mid (hitem.isStandard hreader) hwithin).andThen ?_ ?_
        · refine Reader.Faults.of_passes hitem ?_
          rintro opened ⟨outer, rfl⟩
          rfl
        · rintro items after ⟨last, hlast, hclosing, rfl⟩
          exact ⟨last, hitem.append hreader hlast, hclosing, rfl⟩

omit hreader in
/-- However many calls are allowed, the steps read the standard syntax. -/
theorem reads_upTo (stores : Stores) (policy : CasePolicy) (count : Nat) :
    (upTo stores count).Reads policy := by
  -- a step that is given up reads nothing, and one more call reads by the steps before
  induction count with
  | zero =>
    exact ⟨fun _ _ => trivial, fun _ _ => trivial, fun _ _ => trivial, fun _ _ _ _ => trivial⟩
  | succ count ih =>
    rw [upTo_succ]
    exact ⟨fun _ hreader => readForm_reads hreader ih, fun _ hreader => readNext_reads hreader ih,
      fun _ hreader => readAll_reads hreader ih,
      fun _ _ hreader hstart => readItems_reads hreader ih hstart⟩

end Steps

/-! ## Whole sources -/

namespace Reader

/-- A reader at the start of a source text, with the standard table. -/
theorem isStandard_ofSource {host : SymbolTable} {current : NamespaceId}
    (hcurrent : host.hasNamespace current = true) (policy : CasePolicy) (source : String) :
    (ofSource source (ReadTable.standard.withCase policy) host current).IsStandard policy := by
  have hsource : (Cursor.ofString source).source = source := by
    simp [Cursor.source, Cursor.ofString]
  have hwithin : (Cursor.ofString source).remaining <:+ (Cursor.ofString source).source.toList := by
    simp only [hsource, Cursor.remaining_ofString, List.suffix_rfl]
  exact ⟨rfl, hcurrent, hwithin⟩

/-- At the start of a source text all its lexemes are still to be read. -/
theorem lexemes_ofString (source : String) :
    (Cursor.ofString source).lexemes = Lexeme.ofSource source ∧
      (Cursor.ofString source).stop = byteLength source.toList := by
  have hstop : (Cursor.ofString source).stop = byteLength source.toList := by
    simp [Cursor.stop, Cursor.source, Cursor.ofString]
  rw [Cursor.lexemes, hstop]
  exact ⟨rfl, rfl⟩

/-- All data that are read with the standard table are those that the remaining lexemes write, and
a failure is the fault in these lexemes. -/
theorem readAll_meets {policy : CasePolicy} {reader : Reader} (hreader : reader.IsStandard policy)
    (stores : Stores) :
    (reader.readAll stores).Meets
      (fun data after => after.cursor.remaining = [] ∧
        ∃ written, Forms (reader.cursor.lexemes.map PlacedLexeme.lexeme) written ∧
          SymbolTable.Interns policy.fold reader.current reader.host after.host written data)
      (fun failure => fault reader.cursor.stop reader.cursor.lexemes [] = some failure) := by
  unfold readAll
  refine ((Steps.reads_upTo stores policy reader.allowance).all reader hreader).mono ?_ ?_
  · rintro data after ⟨hpasses, hend⟩
    obtain ⟨passed, written, hlexemes, hforms, hinterns⟩ := hpasses.written
    refine ⟨hend, written, ?_, hinterns⟩
    -- at the end no lexeme is left, so those that were passed are all
    rw [Cursor.lexemes_of_end (List.head?_eq_none_iff.2 hend), List.append_nil] at hlexemes
    rw [forms_iff, hlexemes, hforms]
  · intro failure hfaults
    exact hfaults [] rfl

/-- All data of a source text are read to its end, or the first fault in its lexemes is
reported. -/
theorem readAll_ofSource {host : SymbolTable} {current : NamespaceId}
    (hcurrent : host.hasNamespace current = true) (stores : Stores) (policy : CasePolicy)
    (source : String) :
    let reader := ofSource source (ReadTable.standard.withCase policy) host current
    let lexemes := (Lexeme.ofSource source).map PlacedLexeme.lexeme
    (∃ data after, reader.readAll stores = .value data after ∧ after.cursor.remaining = [] ∧
      ∃ written, Forms lexemes written ∧
        SymbolTable.Interns policy.fold current host after.host written data) ∨
    ∃ failure after, reader.readAll stores = .failed failure after ∧
      faultOf source = some failure := by
  intro reader lexemes
  have hmeets := readAll_meets (isStandard_ofSource hcurrent policy source) stores
  have hreturns : reader.readAll stores ≠ .exhausted :=
    readAll_ne_exhausted (ReadTable.ordinary_standard policy)
  obtain ⟨hlexemes, hstop⟩ := lexemes_ofString source
  change (reader.readAll stores).Meets _ _ at hmeets
  rw [show reader.cursor.lexemes = _ from hlexemes, show reader.cursor.stop = _ from hstop]
    at hmeets
  cases houtcome : reader.readAll stores with
  | value data after =>
    rw [houtcome] at hmeets
    exact Or.inl ⟨data, after, rfl, hmeets⟩
  | failed failure after =>
    rw [houtcome] at hmeets
    exact Or.inr ⟨failure, after, rfl, hmeets⟩
  | dangling after =>
    rw [houtcome] at hmeets
    exact hmeets.elim
  | exhausted => exact absurd houtcome hreturns

/-- With the standard table, all data of a source text are read exactly when every text is closed
and the lexemes are forms. The data are then those that the lexemes write, with the folded tokens
interned in the current namespace, in order. Otherwise the first fault in the lexemes is
reported. -/
theorem readAll_standard {host : SymbolTable} {current : NamespaceId}
    (hcurrent : host.hasNamespace current = true) (stores : Stores) (policy : CasePolicy)
    (source : String) :
    let reader := ofSource source (ReadTable.standard.withCase policy) host current
    let lexemes := (Lexeme.ofSource source).map PlacedLexeme.lexeme
    ((∃ data after, reader.readAll stores = .value data after) ↔
      Lexeme.unclosed ∉ lexemes ∧ ∃ written, Forms lexemes written) ∧
    (∀ data after, reader.readAll stores = .value data after →
      after.cursor.remaining = [] ∧ ∀ written, Forms lexemes written →
        SymbolTable.Interns policy.fold current host after.host written data) ∧
    (∀ failure, (∃ after, reader.readAll stores = .failed failure after) ↔
      faultOf source = some failure) ∧
    ((∃ data after, reader.readAll stores = .value data after) ∨
      ∃ failure after, reader.readAll stores = .failed failure after) := by
  intro reader lexemes
  have hfault : ∀ written, Forms lexemes written → faultOf source = none :=
    fun written hforms => hforms.fault_eq_none _
  rcases readAll_ofSource hcurrent stores policy source with
    ⟨data, after, hvalue, hend, written, hforms, hinterns⟩ | ⟨failure, after, hfailed, hfailure⟩
  · rw [show reader.readAll stores = _ from hvalue]
    refine ⟨⟨fun _ => ⟨hforms.unclosed_notMem, written, hforms⟩, fun _ => ⟨data, after, rfl⟩⟩,
      ?_, fun failure => ⟨?_, fun hfailure => ?_⟩, Or.inl ⟨data, after, rfl⟩⟩
    · intro data' after' heq
      obtain ⟨rfl, rfl⟩ := Outcome.value.inj heq
      -- the lexemes write no other data
      refine ⟨hend, fun other hother => ?_⟩
      rw [hother.unique hforms]
      exact hinterns
    · rintro ⟨after', heq⟩
      cases heq
    · rw [hfault written hforms] at hfailure
      cases hfailure
  · rw [show reader.readAll stores = _ from hfailed]
    refine ⟨⟨?_, ?_⟩, ?_, fun other => ⟨?_, fun hother => ?_⟩, Or.inr ⟨failure, after, rfl⟩⟩
    · rintro ⟨data, after', heq⟩
      cases heq
    · -- forms have no fault
      rintro ⟨-, written, hforms⟩
      rw [hfault written hforms] at hfailure
      cases hfailure
    · intro data after' heq
      cases heq
    · rintro ⟨after', heq⟩
      obtain ⟨rfl, rfl⟩ := Outcome.failed.inj heq
      exact hfailure
    · obtain rfl := Option.some.inj (hfailure.symm.trans hother)
      exact ⟨after, rfl⟩

/-- The input ends behind a quoted datum in a list. -/
theorem readAll_standard_unterminatedList :
    let host := (SymbolTable.empty.create "USER").2
    host.hasNamespace ⟨0⟩ = true ∧
      ∃ after, (ofSource "(a 'b" (ReadTable.standard.withCase .upcase) host ⟨0⟩).readAll
        (fun _ => .empty) = .failed (.unterminatedList ⟨0, 5⟩) after := by
  intro host
  have hcurrent : host.hasNamespace ⟨0⟩ = true := by decide
  have hfault : faultOf "(a 'b" = some (.unterminatedList ⟨0, 5⟩) := by decide +kernel
  obtain ⟨-, -, hfailed, -⟩ := readAll_standard hcurrent (fun _ => .empty) .upcase "(a 'b"
  exact ⟨hcurrent, (hfailed _).2 hfault⟩

end Reader

end AliasReader
