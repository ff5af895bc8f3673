import AliasReader.Proofs.Source.Location
import AliasReader.Report.Terminal

/-!
# Carets Below a Label

The carets below a label start as many blanks behind the gutter as the line has bytes in front of
the label's span, and there is one for each byte of the span. Bytes are not characters: the carets
stand below the text of the label when the line is ASCII up to the end of the span, and too far to
the right, or too many, when it is not.

## Main definitions

* `Span.Marks`: a span inside one line of a text, with the line cut around it;
* `Terminal.excerpt`: the layout of a snippet, by the numbers of its blanks and carets.

## Main results

* `Line.locate_of_marks`: the line that such a span starts in;
* `Terminal.place?_marks`: the snippet of a label with such a span, and where its carets stand below
  the characters of the span.
-/

namespace AliasReader

/-! ## Byte length and characters -/

theorem length_le_byteLength (cs : List Char) : cs.length ≤ byteLength cs := by
  induction cs with
  | nil => exact Nat.le_refl 0
  | cons c cs ih =>
    have hpos := c.utf8Size_pos
    rw [List.length_cons, byteLength_cons]
    omega

/-- A text has as many bytes as characters exactly when every character takes one byte. -/
theorem byteLength_eq_length_iff (cs : List Char) :
    byteLength cs = cs.length ↔ ∀ c ∈ cs, c.utf8Size = 1 := by
  induction cs with
  | nil => simp
  | cons c cs ih =>
    have hpos := c.utf8Size_pos
    have hle := length_le_byteLength cs
    rw [List.forall_mem_cons, ← ih, List.length_cons, byteLength_cons]
    -- no part of the text can make up for a character of several bytes
    omega

/-! ## Spans inside one line -/

/-- A span of some characters inside one line of a text. The line starts the text or follows a
newline, and it ends the text or is followed by one. In front of the span it has the characters
`lead`, in the span the characters `marked`, and behind it the characters `trail`. -/
structure Span.Marks (span : Span) (source before lead marked trail after : List Char) :
    Prop where
  /-- The text consists of the line and what stands around it. -/
  source_eq : source = before ++ (lead ++ marked ++ trail) ++ after
  /-- The line starts the text or follows a newline. -/
  starts : before = [] ∨ before.getLast? = some '\n'
  /-- The line ends the text or a newline follows it. -/
  ends : after = [] ∨ after.head? = some '\n'
  /-- The line has no newline. -/
  newline_notMem : '\n' ∉ lead ++ marked ++ trail
  /-- The span starts behind `lead`. -/
  start_eq : span.start = byteLength (before ++ lead)
  /-- The span ends behind `marked`. -/
  stop_eq : span.stop = byteLength (before ++ lead ++ marked)
  /-- The span is not empty. -/
  marked_ne_nil : marked ≠ []

section Marks

variable {span : Span} {source before lead marked trail after : List Char}

/-- A span inside one line is found in that line, behind the bytes in front of it. -/
theorem Line.locate_of_marks (h : span.Marks source before lead marked trail after) :
    locate source span.start =
      .inLine ⟨before.count '\n' + 1, byteLength lead, lead ++ marked ++ trail⟩ := by
  have hline : IsLine source before (lead ++ (marked ++ trail)) after := by
    rw [← List.append_assoc]
    exact ⟨h.source_eq, h.starts, h.ends, h.newline_notMem⟩
  rw [h.start_eq, locate_of_isLine hline, List.append_assoc]

namespace Terminal

theorem emphasize_false (emphasis : Emphasis) (part : String) :
    emphasize false emphasis part = part := rfl

/-- A label that starts in a line is shown with a snippet, unless it starts too far behind the start
of the line. -/
theorem place?_of_inLine {source : String} {line : Line} (colored : Bool) (emphasis : Emphasis)
    (hline : Line.locate source.toList span.start = .inLine line) :
    place? colored (some source) emphasis span =
      if line.column ≤ maxColumn then
        some (toString line.number ++ ":" ++ toString (line.column + 1),
          snippet colored emphasis span line)
      else none := by
  unfold place?
  dsimp only
  rw [hline]

/-- The layout of a snippet: an empty line, a line of the source with its number, and a line with
blanks and carets, each behind a gutter as wide as the number. -/
def excerpt (number : Nat) (line : List Char) (blanks carets : Nat) : String :=
  "  " ++ run ' ' (toString number).length ++ " |\n" ++
    "  " ++ toString number ++ " | " ++ String.ofList line ++ "\n" ++
    "  " ++ run ' ' (toString number).length ++ " | " ++
    run ' ' blanks ++ run '^' carets ++ "\n"

/-- The blanks and the carets can be counted in a snippet. -/
theorem excerpt_inj {number : Nat} {line : List Char} {blanks carets blanks' carets' : Nat} :
    excerpt number line blanks carets = excerpt number line blanks' carets' ↔
      blanks = blanks' ∧ carets = carets' := by
  constructor
  · intro h
    unfold excerpt at h
    -- what is in front of the blanks is the same, so the two runs can be counted
    have hlists := congrArg String.toList h
    simp only [run, String.toList_append, String.toList_ofList, List.append_assoc,
      List.append_cancel_left_eq] at hlists
    have hblanks := congrArg (List.count ' ') hlists
    have hcarets := congrArg (List.count '^') hlists
    simp only [List.count_append, List.count_replicate] at hblanks hcarets
    exact ⟨by simpa using hblanks, by simpa using hcarets⟩
  · rintro ⟨rfl, rfl⟩
    rfl

theorem some_excerpt_inj {position : String} {number : Nat} {line : List Char}
    {blanks carets blanks' carets' : Nat} :
    some (position, excerpt number line blanks carets) =
        some (position, excerpt number line blanks' carets') ↔
      blanks = blanks' ∧ carets = carets' := by
  rw [Option.some_inj, Prod.mk.injEq, excerpt_inj]
  exact and_iff_right rfl

/-- There is one caret for each byte of a span inside one line. -/
theorem caretCount_of_marks (h : span.Marks source before lead marked trail after) (number : Nat) :
    caretCount span ⟨number, byteLength lead, lead ++ marked ++ trail⟩ = byteLength marked := by
  have hlength : span.length = byteLength marked := by
    rw [Span.length, h.start_eq, h.stop_eq, byteLength_append _ marked]
    omega
  have hpos : byteLength marked ≠ 0 := fun hzero =>
    h.marked_ne_nil ((byteLength_eq_zero_iff marked).1 hzero)
  -- the span is neither empty nor longer than the rest of the line, so it is not cut
  simp only [caretCount, hlength, byteLength_append]
  omega

/-- In the snippet of a span inside one line, bytes are counted in front of the span and in it. -/
theorem snippet_of_marks (h : span.Marks source before lead marked trail after)
    (emphasis : Emphasis) (number : Nat) :
    snippet false emphasis span ⟨number, byteLength lead, lead ++ marked ++ trail⟩ =
      excerpt number (lead ++ marked ++ trail) (byteLength lead) (byteLength marked) := by
  unfold snippet excerpt
  simp only [caretCount_of_marks h, emphasize_false]

/-- The position and the snippet of a label inside one line of a text. -/
theorem place?_of_marks {source : String} (emphasis : Emphasis)
    (h : span.Marks source.toList before lead marked trail after) :
    place? false (some source) emphasis span =
      if byteLength lead ≤ maxColumn then
        some (toString (before.count '\n' + 1) ++ ":" ++ toString (byteLength lead + 1),
          excerpt (before.count '\n' + 1) (lead ++ marked ++ trail) (byteLength lead)
            (byteLength marked))
      else none := by
  have hshown := place?_of_inLine false emphasis (Line.locate_of_marks h)
  rw [snippet_of_marks h emphasis] at hshown
  exact hshown

/-- The snippet of a label inside one line of a text consists of the line and a line with carets, in
which there are as many blanks as bytes in front of the span and as many carets as bytes of the
span; there is none if the span starts too far behind the start of the line. So there is one blank
for each character in front of the span and one caret for each character of the span exactly when
the span does not start too far behind and all of these characters are ASCII. -/
theorem place?_marks {source : String} (emphasis : Emphasis)
    (h : span.Marks source.toList before lead marked trail after) :
    let number := before.count '\n' + 1
    let line := lead ++ marked ++ trail
    let position := toString number ++ ":" ++ toString (byteLength lead + 1)
    place? false (some source) emphasis span =
        (if byteLength lead ≤ maxColumn then
          some (position, excerpt number line (byteLength lead) (byteLength marked))
        else none) ∧
      (place? false (some source) emphasis span =
          some (position, excerpt number line lead.length marked.length) ↔
        byteLength lead ≤ maxColumn ∧ ∀ c ∈ lead ++ marked, c.utf8Size = 1) := by
  intro number line position
  have hshown : place? false (some source) emphasis span =
      if byteLength lead ≤ maxColumn then
        some (position, excerpt number line (byteLength lead) (byteLength marked))
      else none := place?_of_marks emphasis h
  refine ⟨hshown, ?_⟩
  -- bytes and characters are compared in front of the span and in it
  rw [List.forall_mem_append, ← byteLength_eq_length_iff, ← byteLength_eq_length_iff]
  by_cases hcolumn : byteLength lead ≤ maxColumn
  · rw [if_pos hcolumn] at hshown
    rw [and_iff_right hcolumn, hshown]
    exact some_excerpt_inj
  · rw [if_neg hcolumn] at hshown
    simp [hshown, hcolumn]

/-- In a line of ASCII characters the carets stand below the text of the label. -/
theorem place?_marks_ascii :
    let span : Span := ⟨9, 18⟩
    let source := "(print\n  $u:helper)"
    span.Marks source.toList "(print\n".toList "  ".toList "$u:helper".toList ")".toList [] ∧
      place? false (some source) .error span =
        some ("2:3", excerpt 2 "  $u:helper)".toList 2 9) := by
  intro span source
  have hmarks : span.Marks source.toList "(print\n".toList "  ".toList "$u:helper".toList
      ")".toList [] := ⟨by decide, by decide, by decide, by decide, by decide, by decide, by decide⟩
  have hcolumn : byteLength "  ".toList ≤ maxColumn := by decide
  have hascii : ∀ c ∈ "  ".toList ++ "$u:helper".toList, c.utf8Size = 1 :=
    (byteLength_eq_length_iff _).1 (by decide)
  exact ⟨hmarks, (place?_marks .error hmarks).2.2 ⟨hcolumn, hascii⟩⟩

/-- Behind a letter of two bytes and below two of them, the carets start one blank too far to the
right and are twice as many as the characters of the label. -/
theorem place?_misses_multibyte :
    let span : Span := ⟨2, 6⟩
    let source := "λμν x"
    span.Marks source.toList [] ['λ'] ['μ', 'ν'] " x".toList [] ∧
      place? false (some source) .error span = some ("1:3", excerpt 1 source.toList 2 4) ∧
      place? false (some source) .error span ≠ some ("1:3", excerpt 1 source.toList 1 2) := by
  intro span source
  have hmarks : span.Marks source.toList [] ['λ'] ['μ', 'ν'] " x".toList [] :=
    ⟨by decide, by decide, by decide, by decide, by decide, by decide, by decide⟩
  have hplace : place? false (some source) .error span =
      some ("1:3", excerpt 1 source.toList 2 4) := by decide
  refine ⟨hmarks, hplace, ?_⟩
  rw [hplace]
  intro heq
  have hcounts := excerpt_inj.1 (Prod.mk.inj (Option.some.inj heq)).2
  exact absurd hcounts.1 (by decide)

end Terminal

end Marks

end AliasReader
